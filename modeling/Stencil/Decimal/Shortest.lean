import Stencil.Decimal.Binary

set_option autoImplicit false
set_option relaxedAutoImplicit false

/-!
The shortest decimal that reads back as a given float, and the two ways in which it is laid out:
positionally, and with an exponent outside a middle range.
-/

namespace Stencil.Decimal

structure Scientific where
  digits : Nat
  exponent : Int
deriving DecidableEq, Repr

/-- The reals that round to a float, as numerators over one denominator; `closed` tells whether the two
ends belong to them. -/
structure Interval where
  low : Nat
  value : Nat
  high : Nat
  denominator : Nat
  closed : Bool

/-- The interval of a positive float. Below a power of two the neighbour is only half as far. -/
def interval (d : Binary) : Interval :=
  let half := if d.mantissa = Nat.pow 2 52 ∧ -1074 < d.exponent then 1 else 2
  let q := d.exponent - 2
  let scale := Nat.pow 2 q.toNat
  { low := (4 * d.mantissa - half) * scale
    value := 4 * d.mantissa * scale
    high := (4 * d.mantissa + 2) * scale
    denominator := Nat.pow 2 (-q).toNat
    closed := d.mantissa % 2 = 0 }

def Interval.contains (i : Interval) (k : Nat) (e : Int) : Bool :=
  let point := k * Nat.pow 10 e.toNat * i.denominator
  let scale := Nat.pow 10 (-e).toNat
  if i.closed then i.low * scale ≤ point && point ≤ i.high * scale
  else i.low * scale < point && point < i.high * scale

/-- The point of the grid of multiples of `10 ^ e` that is nearest to the value, if one of its two
neighbours there lies in the interval. A tie goes to the even one. -/
def Interval.onGrid? (i : Interval) (e : Int) : Option Nat :=
  let unit := Nat.pow 10 e.toNat * i.denominator
  let value := i.value * Nat.pow 10 (-e).toNat
  let k := value / unit
  match i.contains k e, i.contains (k + 1) e with
  | true, true => some (roundDiv value unit)
  | true, false => some k
  | false, true => some (k + 1)
  | false, false => none

/-- The first grid, from `e` downwards, with a point in the interval. -/
def Interval.search (i : Interval) : Nat → Int → Scientific
  | 0, e => ⟨(i.onGrid? e).getD 0, e⟩
  | n + 1, e =>
    match i.onGrid? e with
    | some k => ⟨k, e⟩
    | none => i.search n (e - 1)

/-- Moves the zeros at the end of the digits into the exponent. -/
def Scientific.stripZeros : Nat → Scientific → Scientific
  | 0, s => s
  | n + 1, s =>
    if s.digits ≠ 0 ∧ s.digits % 10 = 0 then stripZeros n ⟨s.digits / 10, s.exponent + 1⟩ else s

def width (n : Nat) : Nat := (Nat.toDigits 10 n).length

/-- The fewest digits that read back as the float, nearest to it among those. -/
def shortest (x : Float) : Scientific :=
  let d := Binary.ofFloat x
  if d.mantissa = 0 then ⟨0, 0⟩
  else
    let i := interval d
    let whole := i.value / i.denominator
    let top : Int :=
      if whole = 0 then -(width (i.denominator / i.value) : Int) else (width whole : Int)
    (i.search 20 top).stripZeros 20

/-- The digits in positional notation, without an exponent. -/
def positionalDigits (s : Scientific) : String :=
  let digits := Nat.toDigits 10 s.digits
  if 0 ≤ s.exponent then String.ofList (digits ++ List.replicate s.exponent.toNat '0')
  else
    let places := (-s.exponent).toNat
    let padded := List.replicate (places + 1 - digits.length) '0' ++ digits
    String.ofList (padded.take (padded.length - places) ++ '.' :: padded.drop (padded.length - places))

/-- The float in positional notation: no exponent, no point in a whole number, a sign also before a
negative zero. -/
def positional (x : Float) : String :=
  if x.isNaN then "NaN"
  else
    let sign := if (Binary.ofFloat x).negative then "-" else ""
    if x.isInf then sign ++ "inf" else sign ++ positionalDigits (shortest x)

/-- The digits with a point after the first, and an exponent. -/
def exponentDigits (s : Scientific) : String :=
  let digits := Nat.toDigits 10 s.digits
  let power := s.exponent + digits.length - 1
  String.ofList (digits.take 1)
    ++ (if digits.length = 1 then "" else "." ++ String.ofList (digits.drop 1))
    ++ "e" ++ toString power

/-- The float with a point in every case but those with an exponent: from `10 ^ 16` upwards and below
`10 ^ -5`. -/
def pointed (x : Float) : String :=
  let sign := if (Binary.ofFloat x).negative then "-" else ""
  let s := shortest x
  let point := s.exponent + width s.digits
  sign ++
    if s.digits = 0 then "0.0"
    else if 0 ≤ s.exponent ∧ point ≤ 16 then positionalDigits s ++ ".0"
    else if -5 < point ∧ point ≤ 16 then positionalDigits s
    else exponentDigits s

end Stencil.Decimal
