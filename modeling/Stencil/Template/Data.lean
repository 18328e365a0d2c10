import Stencil.Decimal.Integer
import Stencil.Json.Value
import Stencil.Text.Find

set_option autoImplicit false
set_option relaxedAutoImplicit false

/-!
How a template treats its data: as text, as a truth value, and as a place to look into.
-/

namespace Stencil.Template.Data

open Stencil.Json Stencil.Decimal Stencil.Text

mutual

/-- The data as running text. An object is not spelled out, and `null` is nothing. -/
def text : Value → String
  | .null => ""
  | .bool b => if b then "true" else "false"
  | .num n => n.plain
  | .str s => s
  | .arr xs => "[" ++ texts xs ++ "]"
  | .obj _ => "[object]"

def texts : List Value → String
  | [] => ""
  | [x] => text x
  | x :: y :: r => text x ++ ", " ++ texts (y :: r)

end

/-- Data counts as true unless it is empty or zero. -/
def truth : Value → Bool
  | .null => false
  | .bool b => b
  | .num (.int n) => n ≠ 0
  | .num (.real x) => x != 0.0 && !x.isNaN
  | .str s => !s.isEmpty
  | .arr xs => !xs.isEmpty
  | .obj m => !m.isEmpty

/-- A position in an array: digits, perhaps behind a plus sign. -/
def position? (key : String) : Option Nat :=
  let digits := match key.toList with
    | '+' :: r => r
    | s => s
  (natural? digits).filter fun n => Width.unsigned64.holds n

/-- A key as it is written in a path, where `~1` stands for a slash and `~0` for a tilde. -/
def plainKey (key : String) : String :=
  String.ofList
    (Find.replaceAll ['~', '0'] ['~'] (Find.replaceAll ['~', '1'] ['/'] key.toList))

/-- What is under a key of an object, or at a position of an array. -/
def step (v : Value) (key : String) : Option Value :=
  match v with
  | .obj m => m.lookup (plainKey key)
  | .arr xs => (position? (plainKey key)).bind (xs[·]?)
  | _ => none

def follow (v : Value) (keys : List String) : Option Value := keys.foldlM step v

/-- The parts of a path between points. A point between quotes does not separate. -/
def splitPath : Option Char → List Char → List (List Char)
  | _, [] => [[]]
  | quote, c :: r =>
    if c = '.' ∧ quote = none then [] :: splitPath none r
    else
      let quote :=
        match quote with
        | some q => if c = q then none else some q
        | none => if c = '"' ∨ c = '\'' then some c else none
      match splitPath quote r with
      | [] => [[c]]
      | p :: ps => (c :: p) :: ps

def unquoted (key : List Char) : List Char :=
  ((key.dropWhile (· == '"')).reverse.dropWhile (· == '"')).reverse

/-- The keys of a path written with points. An empty path has none. -/
def pathKeys (path : String) : List String :=
  if path.isEmpty then [] else (splitPath none path.toList).map (String.ofList ∘ unquoted)

def at? (v : Value) (path : String) : Option Value := follow v (pathKeys path)

def float? (v : Value) : Option Float := v.num?.map Number.toFloat

/-- A value as a count, if it is a whole number that is not negative. -/
def count? (v : Value) : Option Nat := (v.num?.bind Number.unsigned?).map Int.toNat

def int? (w : Width) (v : Value) : Option Int :=
  match v with
  | .num (.int n) => if w.holds n then some n else none
  | _ => none

end Stencil.Template.Data
