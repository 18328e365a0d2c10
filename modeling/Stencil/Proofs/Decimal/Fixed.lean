import Mathlib.Data.Nat.Digits.Defs
import Stencil.Decimal.Fixed
import Stencil.Text.Find

set_option autoImplicit false
set_option relaxedAutoImplicit false

/-!
Numbers with zeros in front. Main statement: different numbers have different digits, of which there are as many as the
width where that is enough, and each takes one byte.
-/

namespace Stencil.Decimal

open Stencil.Text

theorem isDigit_of_mem_padded {width n : Nat} {c : Char} (h : c ∈ padded width n) : c.isDigit := by
  rcases List.mem_append.mp h with h | h
  · rw [List.eq_of_mem_replicate h]
    rfl
  · exact Nat.isDigit_of_mem_toDigits (by decide) (by decide) h

theorem ofDigitChars_padded (width n : Nat) : Nat.ofDigitChars 10 (padded width n) 0 = n := by
  have hzeros (k : Nat) : Nat.ofDigitChars 10 (List.replicate k '0') 0 = 0 := by
    induction k with
    | zero => rfl
    | succ k ih => rw [List.replicate_succ, Nat.ofDigitChars_cons]; exact ih
  rw [padded, Nat.ofDigitChars_append, hzeros, Nat.ofDigitChars_toDigits (by decide) (by decide)]

theorem padded_injective (width : Nat) : Function.Injective (padded width) := fun m n h => by
  rw [← ofDigitChars_padded width m, h, ofDigitChars_padded]

theorem width_le_length_padded (width n : Nat) : width ≤ (padded width n).length := by
  simp only [padded, List.length_append, List.length_replicate]
  omega

theorem length_padded {width n : Nat} (hwidth : 0 < width) (h : n < 10 ^ width) : (padded width n).length = width := by
  have hdigits := Nat.toDigits_length 10 n width hwidth h
  simp only [padded, List.length_append, List.length_replicate]
  omega

theorem byteLength_padded (width n : Nat) : Find.byteLength (padded width n) = (padded width n).length := by
  have hall : ∀ c ∈ padded width n, c.isDigit := fun c hc => isDigit_of_mem_padded hc
  generalize padded width n = s at hall
  induction s with
  | nil => rfl
  | cons c s ih =>
    obtain ⟨hc, hs⟩ := List.forall_mem_cons.mp hall
    have hdigit : c.val ≤ 57 := by
      rw [Char.isDigit, Bool.and_eq_true, decide_eq_true_eq, decide_eq_true_eq] at hc
      exact hc.2
    have hsize : c.utf8Size = 1 := Char.utf8Size_eq_one_iff.mpr (Nat.le_trans hdigit (by decide))
    rw [Find.byteLength_cons, hsize, ih hs, List.length_cons, Nat.add_comm]

end Stencil.Decimal
