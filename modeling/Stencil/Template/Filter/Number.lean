import Stencil.Decimal.Fixed
import Stencil.Decimal.Reading
import Stencil.Json.Printer
import Stencil.Template.Expr
import Stencil.Template.Filter.Text

set_option autoImplicit false
set_option relaxedAutoImplicit false

/-!
Filters on numbers: arithmetic, conversion, rounding and units.
-/

namespace Stencil.Template

open Stencil.Json Stencil.Decimal

def signedResult (n : Int) : Except CalculationFault Value :=
  if isSigned n then .ok (.ofInt n) else .error .overflow

/-- The result of an operation on signed integers: exact, the quotient and the remainder truncated toward
zero. -/
def Arithmetic.onIntegers (op : Arithmetic) (a b : Int) : Except CalculationFault Value :=
  match op with
  | .add => signedResult (a + b)
  | .sub => signedResult (a - b)
  | .mul => signedResult (a * b)
  | .div => if b = 0 then .error .divisionByZero else signedResult (a.tdiv b)
  | .mod =>
    if b = 0 then .error .divisionByZero
    else if isSigned (a.tdiv b) then .ok (.ofInt (a.tmod b))
    else .error .overflow

/-- The result of an operation on floats, which must be finite. -/
def Arithmetic.onFloats (op : Arithmetic) (a b : Float) : Except CalculationFault Value :=
  let finite (x : Float) : Except CalculationFault Value :=
    match Number.ofFloat? x with
    | some n => .ok (.num n)
    | none => .error (.notFinite x)
  match op with
  | .add => finite (a + b)
  | .sub => finite (a - b)
  | .mul => finite (a * b)
  | .div => if b == 0.0 then .error .divisionByZero else finite (a / b)
  | .mod => if b == 0.0 then .error .divisionByZero else finite (remainder a b)

/-- The result of an operation on two numbers. Signed integers stay integers; all other numbers are taken as
floats. -/
def Arithmetic.apply (op : Arithmetic) (lhs rhs : Value) : Except CalculationFault Value :=
  match lhs.num?.bind Number.signed?, rhs.num?.bind Number.signed? with
  | some a, some b => op.onIntegers a b
  | _, _ =>
    match Data.float? lhs, Data.float? rhs with
    | some a, some b => op.onFloats a b
    | _, _ => .error (.notNumbers lhs rhs)

namespace Filter

/-- The filter that applies an operation to its input and its argument `n`. -/
def arithmetic (name : String) (op : Arithmetic) : Filter := fun v args =>
  match args.lookup "n" with
  | none => .error (.missingOperand name)
  | some n => (op.apply v n).mapError (.calculation name)

/-- A float as a signed integer: truncated, and clamped to the range. -/
def clampedInteger (x : Float) : Int :=
  if x.isNaN then 0
  else if x.isInf then (if x < 0.0 then Width.signed64.least else Width.signed64.greatest)
  else Width.signed64.clamp (Decimal.truncate x)

def withoutBaseMark (base : Nat) (s : List Char) : List Char :=
  if base = 2 then withoutLeading ['0', 'b'] s
  else if base = 8 then withoutLeading ['0', 'o'] s
  else if base = 16 then withoutLeading ['0', 'x'] s
  else s

def int : Filter := fun v args => do
  let default ← argument? "int" "default" (Data.int? .signed64) args
  let base ← argument? "int" "base" (Data.int? .unsigned32) args
  let base := (base.getD 10).toNat
  match v with
  | .num n => pure (.ofInt (clampedInteger n.toFloat))
  | .str s =>
    let s := withoutBaseMark base (Text.Blank.trim s.toList)
    match bounded? .signed64 base s with
    | some n => pure (.ofInt n)
    | none =>
      let fromFloat := if s.contains '.' then (Decimal.float? s).map clampedInteger else none
      pure (.ofInt (fromFloat.getD (default.getD 0)))
  | _ => .error (.wrongInput .filter "int")

def float : Filter := fun v args => do
  let default ← argument? "float" "default" Data.float? args
  match v with
  | .num n => pure (.ofFloat n.toFloat)
  | .str s =>
    pure (.ofFloat ((Decimal.float? (Text.Blank.trim s.toList)).getD (default.getD 0.0)))
  | _ => .error (.wrongInput .filter "float")

def abs : Filter := fun v _ =>
  match v with
  | .num (.int n) => .ok (.ofInt n.natAbs)
  | .num (.real x) => .ok (.ofFloat x.abs)
  | _ => .error (.wrongInput .filter "abs")

/-- `acc` times a power of `base`, by repeated squaring. -/
def power : Nat → Nat → Float → Float → Float
  | 0, _, _, acc => acc
  | fuel + 1, k, base, acc =>
    let acc := if k % 2 = 1 then acc * base else acc
    if k / 2 = 0 then acc else power fuel (k / 2) (base * base) acc

def powerOfTen (n : Int) : Float :=
  let p := power 32 n.natAbs 10.0 1.0
  if n < 0 then 1.0 / p else p

/-- The number rounded to a count of places: to the nearest, upwards or downwards. -/
def round : Filter := fun v args => do
  let x ← input "round" Data.float? v
  let method ← argument? "round" "method" Value.str? args
  let precision ← argument? "round" "precision" (Data.int? .signed32) args
  let scale := powerOfTen (precision.getD 0)
  match method.getD "common" with
  | "common" => pure (.ofFloat ((scale * x).round / scale))
  | "ceil" => pure (.ofFloat ((scale * x).ceil / scale))
  | "floor" => pure (.ofFloat ((scale * x).floor / scale))
  | _ => .error (.wrongArgument .filter "round" "method")

/-- One of two endings, the first of which goes with the number one. -/
def pluralize : Filter := fun v args => do
  let x ← input "pluralize" Data.float? v
  let plural ← argument? "pluralize" "plural" Value.str? args
  let singular ← argument? "pluralize" "singular" Value.str? args
  let isOne := !((x.abs - 1.0).abs > Float.ofBits 0x3CB0000000000000)
  pure (.str (if isOne then singular.getD "" else plural.getD "s"))

/-- A size divided by 1024 until it is less than that, and how often. -/
def scaleDown : Nat → Float → Float × Nat
  | 0, x => (x, 0)
  | n + 1, x => if x.abs ≥ 1024.0 then let m := scaleDown n (x / 1024.0); (m.1, m.2 + 1) else (x, 0)

def fileSize : Filter := fun v args => do
  let n ← input "filesizeformat" Data.count? v
  let binary ← argument? "filesizeformat" "binary" Value.bool? args
  let units :=
    if binary.getD false then ["B", "KiB", "MiB", "GiB", "TiB", "PiB", "EiB"]
    else ["B", "kB", "MB", "GB", "TB", "PB", "EB"]
  let (x, unit) := scaleDown 6 (ofInt n)
  let places := if x.floor == x then 0 else 2
  pure (.str (fixed places x ++ " " ++ units.getD unit ""))

def numbers : List (String × Filter) := [
  ("add", arithmetic "add" .add),
  ("sub", arithmetic "sub" .sub),
  ("mul", arithmetic "mul" .mul),
  ("div", arithmetic "div" .div),
  ("mod", arithmetic "mod" .mod),
  ("int", int),
  ("float", float),
  ("abs", abs),
  ("round", round),
  ("pluralize", pluralize),
  ("filesizeformat", fileSize)]

end Filter

end Stencil.Template
