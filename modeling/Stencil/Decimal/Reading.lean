import Stencil.Decimal.Binary
import Stencil.Decimal.Integer

set_option autoImplicit false
set_option relaxedAutoImplicit false

/-!
Reading floats: digits with an optional point and exponent, and the words for what is not finite.
-/

namespace Stencil.Decimal

/-- A number `digits · 10 ^ exponent` as a float. Exponents far outside the range of floats are not worked
out. -/
def scaled (digits : Nat) (exponent : Int) : Float :=
  if digits = 0 then 0.0
  else
    let magnitude : Int := exponent + (Nat.toDigits 10 digits).length
    if 400 < magnitude then 1.0 / 0.0
    else if magnitude < -400 then 0.0
    else ofDecimal digits exponent

/-- Digits with a point somewhere or none, and at least one digit: the digits and the number of them behind
the point. -/
def pointedDigits? (s : List Char) : Option (Nat × Nat) :=
  let whole := s.takeWhile (· ≠ '.')
  let fraction := (s.dropWhile (· ≠ '.')).drop 1
  (natural? (whole ++ fraction)).map (·, fraction.length)

/-- The float without a sign that a text writes. -/
def unsignedFloat? (s : List Char) : Option Float :=
  let word := s.map Char.toLower
  if word = ['i', 'n', 'f'] ∨ word = ['i', 'n', 'f', 'i', 'n', 'i', 't', 'y'] then some (1.0 / 0.0)
  else if word = ['n', 'a', 'n'] then some (0.0 / 0.0)
  else
    let isMark (c : Char) : Bool := c == 'e' || c == 'E'
    let body := s.takeWhile (!isMark ·)
    match pointedDigits? body with
    | none => none
    | some (digits, places) =>
      match s.dropWhile (!isMark ·) with
      | [] => some (scaled digits (-(places : Int)))
      | _ :: power =>
        (bounded? ⟨-1000000000000000000, 1000000000000000000⟩ 10 power).map fun e => scaled digits (e - places)

def float? : List Char → Option Float
  | '-' :: s => (unsignedFloat? s).map (- ·)
  | '+' :: s => unsignedFloat? s
  | s => unsignedFloat? s

end Stencil.Decimal
