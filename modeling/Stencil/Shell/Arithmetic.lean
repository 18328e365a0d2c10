import Stencil.Decimal.Integer
import Stencil.Shell.Parser

set_option autoImplicit false
set_option relaxedAutoImplicit false

/-!
Arithmetic on 64-bit integers, as shells write it.
-/

namespace Stencil.Shell.Arithmetic

def wrapped (n : Int) : Int := Int.bmod n 18446744073709551616

inductive ArithmeticFault
  | primary
  | close
  | colon
  | remainder
  | division
  | number (text : Octets)
deriving DecidableEq, Repr

def ArithmeticFault.reason : ArithmeticFault → String
  | .primary => "expecting primary"
  | .close => "expecting ')'"
  | .colon => "expecting ':'"
  | .remainder => "expecting EOF"
  | .division => "division by zero"
  | .number t => "Illegal number: " ++ String.ofList t

/-- Variables with their values, or with the text that is none. -/
abbrev Variables := List (Octets × Except Octets Int)

/-- A value with the variables afterwards, and what is left of the text. -/
abbrev Reading := Except ArithmeticFault (Int × Variables × Octets)

/-- The value of a variable. One that is missing counts as zero. -/
def valueOf (vs : Variables) (name : Octets) : Except ArithmeticFault Int :=
  match vs.lookup name with
  | none => .ok 0
  | some (.ok x) => .ok x
  | some (.error t) => .error (.number t)

/-- The operators of two values, from those that bind loosest, with the length of their signs. -/
def levels : List (List String) := [
  ["||"], ["&&"], ["|"], ["^"], ["&"], ["==", "!="], ["<=", ">=", "<", ">"], ["<<", ">>"], ["+", "-"],
  ["*", "/", "%"]]

/-- The operator of a level at the front of a text, if it is not a part of a longer one. -/
def operator? (level : List String) (s : Octets) : Option (String × Octets) :=
  let longer : List String := ["||", "&&", "<<", ">>", "<=", ">=", "==", "!="]
  let here := longer.find? fun o => o.toList.isPrefixOf s
  (level.find? fun o => o.toList.isPrefixOf s && here.all (· == o)).map fun o => (o, s.drop o.length)

def ofBool (b : Bool) : Int := if b then 1 else 0

/-- What an operator makes of two values. Nothing can be divided by zero. -/
def apply (o : String) (a b : Int) : Except ArithmeticFault Int :=
  match o with
  | "||" => .ok (ofBool (a ≠ 0 || b ≠ 0))
  | "&&" => .ok (ofBool (a ≠ 0 && b ≠ 0))
  | "|" => .ok (BitVec.toInt (BitVec.ofInt 64 a ||| BitVec.ofInt 64 b))
  | "^" => .ok (BitVec.toInt (BitVec.ofInt 64 a ^^^ BitVec.ofInt 64 b))
  | "&" => .ok (BitVec.toInt (BitVec.ofInt 64 a &&& BitVec.ofInt 64 b))
  | "==" => .ok (ofBool (a = b))
  | "!=" => .ok (ofBool (a ≠ b))
  | "<=" => .ok (ofBool (a ≤ b))
  | ">=" => .ok (ofBool (a ≥ b))
  | "<" => .ok (ofBool (a < b))
  | ">" => .ok (ofBool (a > b))
  | "<<" => .ok (wrapped (a * (Nat.pow 2 (b % 64).toNat : Nat)))
  | ">>" => .ok (a / (Nat.pow 2 (b % 64).toNat : Nat))
  | "+" => .ok (wrapped (a + b))
  | "-" => .ok (wrapped (a - b))
  | "*" => .ok (wrapped (a * b))
  | "/" => if b = 0 then .error .division else .ok (wrapped (Int.tdiv a b))
  | "%" => if b = 0 then .error .division else .ok (Int.tmod a b)
  | _ => .error .primary

def skip (s : Octets) : Octets := s.dropWhile fun c => c == ' ' || c == '\t' || c == '\n'

/-- The integer that digits write: to base 16 behind `0x`, to base 8 behind a zero. -/
def number? (s : Octets) : Option Int :=
  match s with
  | '0' :: 'x' :: r | '0' :: 'X' :: r => if r.isEmpty then none else (Decimal.digits? 16 r).map fun n => (n : Int)
  | '0' :: r => if r.isEmpty then some 0 else (Decimal.digits? 8 r).map fun n => (n : Int)
  | s => (Decimal.natural? s).map fun n => (n : Int)

def clamped (n : Int) : Int := Decimal.Width.signed64.clamp n

def assigning : List String := ["+=", "-=", "*=", "/=", "%="]

mutual

/-- A value: an assignment, a choice between two, or what operators make. -/
def expression : Nat → Variables → Octets → Reading
  | 0, _, _ => .error .primary
  | n + 1, vs, s => do
    let s := skip s
    let name := s.takeWhile Parser.isNameChar
    let behind := skip (s.drop name.length)
    let isName := Parser.isName name
    match isName, assigning.find? fun o => o.toList.isPrefixOf behind with
    | true, some o =>
      let (v, vs, r) ← expression n vs (behind.drop 2)
      let x ← apply (o.take 1).toString (← valueOf vs name) v
      .ok (x, (name, .ok x) :: vs, r)
    | true, none =>
      if behind.head? = some '=' && (behind.drop 1).head? ≠ some '=' then
        let (v, vs, r) ← expression n vs (behind.drop 1)
        .ok (v, (name, .ok v) :: vs, r)
      else choice n vs s
    | false, _ => choice n vs s

def choice : Nat → Variables → Octets → Reading
  | 0, _, _ => .error .primary
  | n + 1, vs, s => do
    let (c, vs, r) ← operators n levels vs s
    match skip r with
    | '?' :: r =>
      let (a, vs, r) ← expression n vs r
      match skip r with
      | ':' :: r =>
        let (b, vs, r) ← expression n vs r
        .ok (if c ≠ 0 then a else b, vs, r)
      | _ => .error .colon
    | r => .ok (c, vs, r)

/-- What operators of some levels make of values. -/
def operators : Nat → List (List String) → Variables → Octets → Reading
  | 0, _, _, _ => .error .primary
  | n + 1, [], vs, s => unary n vs s
  | n + 1, level :: tighter, vs, s => do
    let (a, vs, r) ← operators n tighter vs s
    following n level tighter a vs r

/-- What further operators of a level make of a value. -/
def following : Nat → List String → List (List String) → Int → Variables → Octets → Reading
  | 0, _, _, _, _, _ => .error .primary
  | n + 1, level, tighter, a, vs, s =>
    match operator? level (skip s) with
    | none => .ok (a, vs, s)
    | some (o, r) => do
      let (b, vs, r) ← operators n tighter vs r
      let x ← apply o a b
      following n level tighter x vs r

/-- A value with signs in front, a number, a variable or something in parentheses. -/
def unary : Nat → Variables → Octets → Reading
  | 0, _, _ => .error .primary
  | n + 1, vs, s =>
    match skip s with
    | '-' :: r => (unary n vs r).map fun m => (wrapped (-m.1), m.2)
    | '+' :: r => unary n vs r
    | '!' :: r => (unary n vs r).map fun m => (ofBool (m.1 = 0), m.2)
    | '~' :: r => (unary n vs r).map fun m => (-m.1 - 1, m.2)
    | '(' :: r => do
      let (x, vs, r) ← expression n vs r
      match skip r with
      | ')' :: r => .ok (x, vs, r)
      | _ => .error .close
    | s =>
      let (w, r) := (s.takeWhile Parser.isNameChar, s.dropWhile Parser.isNameChar)
      if w.isEmpty then .error .primary
      else if Parser.isName w then (valueOf vs w).map fun x => (x, vs, r)
      else
        match number? w with
        | some x => .ok (clamped x, vs, r)
        | none => .error .remainder

end

/-- The value of a text, and the variables afterwards, the latest in front. -/
def evaluate (vs : Variables) (s : Octets) : Except ArithmeticFault (Int × Variables) := do
  let (x, vs, r) ← expression (30 * s.length + 30) vs s
  if (skip r).isEmpty then .ok (x, vs) else .error .remainder

def ofText (s : Octets) : Except Octets Int :=
  if s.isEmpty then .ok 0
  else
    match unary (s.length + 2) [] s with
    | .ok (x, _, []) => if (s.headD '0').isAlpha then .error s else .ok x
    | _ => .error s

end Stencil.Shell.Arithmetic
