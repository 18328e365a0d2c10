import Stencil.Decimal.Width

set_option autoImplicit false
set_option relaxedAutoImplicit false

/-!
Reading decimal integers: digits with an optional sign in front.
-/

namespace Stencil.Decimal

/-- The number that digits of a base write, if each character is one of them. -/
def digits? (base : Nat) (s : List Char) : Option Nat :=
  s.foldl
    (fun acc c => do
      let n ← acc
      let d ←
        if '0' ≤ c ∧ c ≤ '9' then some (c.toNat - 48)
        else if 'a' ≤ c ∧ c ≤ 'z' then some (c.toNat - 87)
        else if 'A' ≤ c ∧ c ≤ 'Z' then some (c.toNat - 55)
        else none
      if d < base then some (n * base + d) else none)
    (some 0)

def natural? (s : List Char) : Option Nat := if s.isEmpty then none else digits? 10 s

/-- An integer in the digits of a base with at most one sign, if it is one of the width. -/
def bounded? (w : Width) (base : Nat) (s : List Char) : Option Int :=
  let signed : Option Int :=
    match s with
    | [] => none
    | '-' :: r => if r.isEmpty then none else (digits? base r).map fun n => -(n : Int)
    | '+' :: r => if r.isEmpty then none else (digits? base r).map Int.ofNat
    | s => (digits? base s).map Int.ofNat
  signed.filter w.holds

def signed64? (s : List Char) : Option Int := bounded? .signed64 10 s

end Stencil.Decimal
