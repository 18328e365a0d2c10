import Stencil.Decimal.Binary

set_option autoImplicit false
set_option relaxedAutoImplicit false

/-!
Numbers with a fixed count of digits: behind the point, or altogether.
-/

namespace Stencil.Decimal

def padded (width n : Nat) : List Char :=
  let digits := Nat.toDigits 10 n
  List.replicate (width - digits.length) '0' ++ digits

/-- A finite float with a fixed count of places behind the point. A tie goes to the even neighbour. -/
def fixed (places : Nat) (x : Float) : String :=
  let d := Binary.ofFloat x
  let n := roundDiv (d.mantissa * Nat.pow 2 d.exponent.toNat * Nat.pow 10 places) (Nat.pow 2 (-d.exponent).toNat)
  let digits := padded (places + 1) n
  let whole := digits.take (digits.length - places)
  let fraction := digits.drop (digits.length - places)
  String.ofList ((if d.negative then ['-'] else []) ++ whole
    ++ (if places = 0 then [] else '.' :: fraction))

end Stencil.Decimal
