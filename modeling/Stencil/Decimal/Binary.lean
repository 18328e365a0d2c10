set_option autoImplicit false
set_option relaxedAutoImplicit false

/-!
Floating-point numbers as signed multiples of powers of two, and back by rounding an exact quotient to
the nearest one.
-/

namespace Stencil.Decimal

structure Binary where
  negative : Bool
  mantissa : Nat
  exponent : Int

/-- The exact value of a finite float: 52 bits of fraction under an exponent of 11 bits. -/
def Binary.ofFloat (x : Float) : Binary :=
  let bits : Nat := x.toBits.toNat
  let fraction : Nat := bits % Nat.pow 2 52
  let biased : Nat := bits / Nat.pow 2 52 % Nat.pow 2 11
  { negative := bits / Nat.pow 2 63 = 1
    mantissa := if biased = 0 then fraction else Nat.pow 2 52 + fraction
    exponent := (if biased = 0 then 1 else (biased : Int)) - 1075 }

/-- `a / b` rounded to an integer, a tie going to the even neighbour. -/
def roundDiv (a b : Nat) : Nat :=
  let q := a / b
  let twice := 2 * (a % b)
  if twice < b then q
  else if b < twice then q + 1
  else if q % 2 = 0 then q else q + 1

/-- The exponent of the binary grid on which the quotient `a / b` has 53 bits, or the finest one. -/
def gridExponent (a b : Nat) : Int :=
  let guess : Int := (a.log2 : Int) - b.log2 - 52
  let quotient (q : Int) : Nat := (a * Nat.pow 2 (-q).toNat) / (b * Nat.pow 2 q.toNat)
  let fitted :=
    if Nat.pow 2 53 ≤ quotient guess then guess + 1
    else if quotient guess < Nat.pow 2 52 then guess - 1
    else guess
  max fitted (-1074)

/-- The float nearest to `a / b`, a tie going to the one with an even mantissa. -/
def nearest (a b : Nat) : Float :=
  if a = 0 then 0.0
  else
    let q := gridExponent a b
    let m := roundDiv (a * Nat.pow 2 (-q).toNat) (b * Nat.pow 2 q.toNat)
    if 971 < q ∨ (q = 971 ∧ m = Nat.pow 2 53) then Float.ofBits 0x7FF0000000000000
    else if m < Nat.pow 2 52 then Float.ofBits (UInt64.ofNat m)
    else Float.ofBits (UInt64.ofNat ((q + 1075).toNat * Nat.pow 2 52 + (m - Nat.pow 2 52)))

def withSign (negative : Bool) (x : Float) : Float := if negative then -x else x

def ofInt (n : Int) : Float := withSign (n < 0) (nearest n.natAbs 1)

def ofDecimal (digits : Nat) (exponent : Int) : Float :=
  nearest (digits * Nat.pow 10 exponent.toNat) (Nat.pow 10 (-exponent).toNat)

/-- The remainder of a division truncated toward zero, which is exact and has the sign of the dividend. -/
def remainder (x y : Float) : Float :=
  if !x.isFinite || y.isNaN || y == 0.0 then 0.0 / 0.0
  else if !y.isFinite then x
  else
    let a := Binary.ofFloat x
    let b := Binary.ofFloat y
    let q := min a.exponent b.exponent
    let r := (a.mantissa * Nat.pow 2 (a.exponent - q).toNat) % (b.mantissa * Nat.pow 2 (b.exponent - q).toNat)
    withSign a.negative (nearest (r * Nat.pow 2 q.toNat) (Nat.pow 2 (-q).toNat))

def truncate (x : Float) : Int :=
  let d := Binary.ofFloat x
  let n : Nat := d.mantissa * Nat.pow 2 d.exponent.toNat / Nat.pow 2 (-d.exponent).toNat
  if d.negative then -(n : Int) else n

end Stencil.Decimal
