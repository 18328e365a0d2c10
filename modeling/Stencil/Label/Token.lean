import Stencil.Text.Blank
import Stencil.Text.Find
import Stencil.Text.Quoted

set_option autoImplicit false
set_option relaxedAutoImplicit false

/-!
The tokens of a label selector. Every text has tokens: white space separates them, seven characters stand
for themselves, and all else forms words.
-/

namespace Stencil.Label

open Stencil.Text

inductive Token
  | word (s : List Char)
  | bang
  | eq
  | doubleEq
  | notEq
  | gt
  | lt
  | opening
  | closing
  | comma
deriving DecidableEq, Repr

/-- The characters that spell a token. -/
def Token.spelling : Token → List Char
  | .word s => s
  | .bang => ['!']
  | .eq => ['=']
  | .doubleEq => ['=', '=']
  | .notEq => ['!', '=']
  | .gt => ['>']
  | .lt => ['<']
  | .opening => ['(']
  | .closing => [')']
  | .comma => [',']

/-- The name of a token in a message; a word is quoted. -/
def Token.describe : Token → String
  | .word s => "Ident(" ++ String.ofList (Quoted.encode s) ++ ")"
  | .bang => "Bang"
  | .eq => "Eq"
  | .doubleEq => "DoubleEq"
  | .notEq => "NotEq"
  | .gt => "Gt"
  | .lt => "Lt"
  | .opening => "Open"
  | .closing => "Close"
  | .comma => "Comma"

/-- The token that a character spells on its own. -/
def special? : Char → Option Token
  | '=' => some .eq
  | '!' => some .bang
  | '(' => some .opening
  | ')' => some .closing
  | ',' => some .comma
  | '<' => some .lt
  | '>' => some .gt
  | _ => none

def isWordChar (c : Char) : Bool := !Blank.isBlank c && (special? c).isNone

/-- The token at the beginning of a text that begins with `c`, which is not blank, and the rest. -/
def firstToken (c : Char) (r : List Char) : Token × List Char :=
  match c, r with
  | '=', '=' :: r => (.doubleEq, r)
  | '!', '=' :: r => (.notEq, r)
  | c, r =>
    match special? c with
    | some t => (t, r)
    | none => (.word (c :: r.takeWhile isWordChar), r.dropWhile isWordChar)

theorem length_firstToken_le (c : Char) (r : List Char) : (firstToken c r).2.length ≤ r.length := by
  unfold firstToken
  split
  · simp
  · simp
  · split
    · exact Nat.le_refl _
    · exact (List.dropWhile_sublist _).length_le

/-- The tokens of a text that begins at a byte offset, each with the offset at which it begins. -/
def tokensFrom (offset : Nat) : List Char → List (Token × Nat)
  | [] => []
  | c :: r =>
    if Blank.isBlank c then tokensFrom (offset + c.utf8Size) r
    else
      let t := firstToken c r
      (t.1, offset) :: tokensFrom (offset + Find.byteLength t.1.spelling) t.2
termination_by s => s.length
decreasing_by
  · simp
  · exact Nat.lt_succ_of_le (length_firstToken_le c r)

def tokens (s : List Char) : List (Token × Nat) := tokensFrom 0 s

end Stencil.Label
