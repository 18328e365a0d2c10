import Stencil.Decimal.Reading
import Stencil.Json.Value

set_option autoImplicit false
set_option relaxedAutoImplicit false

/-!
Reading JSON documents. What is nested more deeply than a fixed depth is refused.
-/

namespace Stencil.Json

open Stencil.Decimal

/-- A reader takes a document from the front of a text and leaves the rest. -/
abbrev Reader (α : Type) := List Char → Option (α × List Char)

namespace Reader

def isBlank (c : Char) : Bool := c == ' ' || c == '\t' || c == '\n' || c == '\r'

def skip (s : List Char) : List Char := s.dropWhile isBlank

def word (s w : List Char) : Option (List Char) := if w.isPrefixOf s then some (s.drop w.length) else none

def hex4? : Reader Nat
  | a :: b :: c :: d :: r => (digits? 16 [a, b, c, d]).map (·, r)
  | _ => none

/-- What stands behind the backslash and the `u` of an escape. A character outside the first plane is written
as two of them. -/
def escaped? (s : List Char) : Option (Char × List Char) := do
  let (n, r) ← hex4? s
  if 0xDC00 ≤ n ∧ n < 0xE000 then none
  else if 0xD800 ≤ n ∧ n < 0xDC00 then
    let (m, r) ← (word r ['\\', 'u']).bind hex4?
    if 0xDC00 ≤ m ∧ m < 0xE000 then some (Char.ofNat (0x10000 + (n - 0xD800) * 0x400 + (m - 0xDC00)), r)
    else none
  else some (Char.ofNat n, r)

/-- The character that a letter behind a backslash stands for. -/
def simpleEscape? : Char → Option Char
  | '"' => some '"'
  | '\\' => some '\\'
  | '/' => some '/'
  | 'b' => some '\x08'
  | 'f' => some '\x0c'
  | 'n' => some '\n'
  | 'r' => some '\r'
  | 't' => some '\t'
  | _ => none

/-- The characters of a string up to its closing quote, put in front of those read, in reverse. -/
def characters : Nat → List Char → Reader (List Char)
  | 0, _, _ => none
  | n + 1, done, s =>
    match s with
    | '"' :: r => some (done.reverse, r)
    | '\\' :: 'u' :: r =>
      match escaped? r with
      | some (c, r) => characters n (c :: done) r
      | none => none
    | '\\' :: c :: r =>
      match simpleEscape? c with
      | some c => characters n (c :: done) r
      | none => none
    | c :: r => if c.toNat < 0x20 then none else characters n (c :: done) r
    | [] => none

def string? (s : List Char) : Option (String × List Char) :=
  (characters (s.length + 1) [] s).map fun m => (String.ofList m.1, m.2)

/-- The number that digits before and behind the point and an exponent write. Without point and exponent it is
an integer, if it fits. -/
def numberOf (negative : Bool) (whole : List Char) (fraction : Option (List Char)) (exponent : Option Int) :
    Option Number := do
  let n ← natural? whole
  let signed : Int := if negative then -(n : Int) else n
  if fraction.isNone && exponent.isNone && (isSigned signed || isUnsigned signed) && !(negative && n = 0) then
    some (.int signed)
  else
    let digits ← natural? (whole ++ fraction.getD [])
    Number.ofFloat? (withSign negative (scaled digits (exponent.getD 0 - (fraction.getD []).length)))

/-- The exponent of a number, if one follows. -/
def exponent? (s : List Char) : Option (Option Int × List Char) :=
  match s with
  | c :: r =>
    if c == 'e' || c == 'E' then
      let (negative, r) := match r with
        | '-' :: r => (true, r)
        | '+' :: r => (false, r)
        | r => (false, r)
      (natural? (r.takeWhile Char.isDigit)).map fun n =>
        (some (if negative then -(n : Int) else n), r.dropWhile Char.isDigit)
    else some (none, s)
  | [] => some (none, [])

/-- A number. No zero stands before other digits. -/
def number? (s : List Char) : Option (Number × List Char) := do
  let (negative, s) := match s with
    | '-' :: r => (true, r)
    | s => (false, s)
  let whole := s.takeWhile Char.isDigit
  if whole.isEmpty || (whole.head? == some '0' && whole.length ≠ 1) then none
  else
    let (fraction, r) ←
      match s.dropWhile Char.isDigit with
      | '.' :: r =>
        let digits := r.takeWhile Char.isDigit
        if digits.isEmpty then none else some (some digits, r.dropWhile Char.isDigit)
      | r => some (none, r)
    let (exponent, r) ← exponent? r
    (numberOf negative whole fraction exponent).map (·, r)

/-- Items with commas between them, up to a closing character. -/
def separated {α : Type} (item : Reader α) (close : Char) : Nat → Reader (List α)
  | 0, _ => none
  | n + 1, s =>
    match item (skip s) with
    | none => none
    | some (x, r) =>
      match skip r with
      | ',' :: r => (separated item close n r).map fun m => (x :: m.1, m.2)
      | c :: r => if c = close then some ([x], r) else none
      | [] => none

def enclosed {α : Type} (item : Reader α) (close : Char) : Reader (List α) := fun s =>
  match skip s with
  | c :: r => if c = close then some ([], r) else separated item close (s.length + 1) s
  | [] => none

def member (item : Reader Value) : Reader (String × Value)
  | '"' :: r =>
    match string? r with
    | none => none
    | some (k, r) =>
      match skip r with
      | ':' :: r => (item (skip r)).map fun m => ((k, m.1), m.2)
      | _ => none
  | _ => none

/-- A document that is nested at most so deeply. -/
def value : Nat → Reader Value
  | _, 'n' :: r => (word r ['u', 'l', 'l']).map (Value.null, ·)
  | _, 't' :: r => (word r ['r', 'u', 'e']).map (Value.bool true, ·)
  | _, 'f' :: r => (word r ['a', 'l', 's', 'e']).map (Value.bool false, ·)
  | _, '"' :: r => (string? r).map fun m => (.str m.1, m.2)
  | depth + 1, '[' :: r => (enclosed (value depth) ']' r).map fun m => (.arr m.1, m.2)
  | depth + 1, '\x7b' :: r => (enclosed (member (value depth)) '\x7d' r).map fun m => (.ofMembers m.1, m.2)
  | _, s => (number? s).map fun m => (.num m.1, m.2)

def depthLimit : Nat := 127

def read? (s : List Char) : Option Value :=
  match value depthLimit (skip s) with
  | some (x, r) => if (skip r).isEmpty then some x else none
  | none => none

end Reader

end Stencil.Json
