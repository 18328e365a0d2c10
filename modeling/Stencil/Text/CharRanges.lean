set_option autoImplicit false
set_option relaxedAutoImplicit false

/-!
Sets of characters given as ascending, disjoint, closed ranges of code points.
-/

namespace Stencil.Text.CharRanges

/-- A character lies in a set of ranges when one of the ranges contains its code point. -/
def contains (ranges : List (Nat × Nat)) (c : Char) : Bool :=
  ranges.any fun r => r.1 ≤ c.toNat && c.toNat ≤ r.2

theorem contains_nil (c : Char) : contains [] c = false := rfl

theorem contains_cons (r : Nat × Nat) (rs : List (Nat × Nat)) (c : Char) :
    contains (r :: rs) c = (decide (r.1 ≤ c.toNat) && decide (c.toNat ≤ r.2) || contains rs c) := by
  simp [contains]

end Stencil.Text.CharRanges
