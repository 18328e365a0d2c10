import Mathlib.Data.List.Induction
import Stencil.Decimal.Integer

set_option autoImplicit false
set_option relaxedAutoImplicit false

/-!
Which texts are integers, told by their form. Main statement: a signed integer of 64 bits is read from decimal digits
with at most one sign, and from nothing else.
-/

namespace Stencil.Decimal

/-- The text writes the integer: at least one decimal digit, perhaps behind a sign, and a number of the width. -/
def Writes (w : Width) (s : List Char) (n : Int) : Prop :=
  (∃ digits, digits ≠ [] ∧ (∀ c ∈ digits, c.isDigit) ∧
    (s = digits ∧ n = Nat.ofDigitChars 10 digits 0 ∨
      s = '+' :: digits ∧ n = Nat.ofDigitChars 10 digits 0 ∨
      s = '-' :: digits ∧ n = -(Nat.ofDigitChars 10 digits 0 : Int))) ∧
    w.least ≤ n ∧ n ≤ w.greatest

theorem digits?_append_singleton (s : List Char) (c : Char) :
    digits? 10 (s ++ [c]) = if c.isDigit then (digits? 10 s).map (· * 10 + (c.toNat - 48)) else none := by
  rw [digits?, List.foldl_append, ← digits?]
  cases digits? 10 s with
  | none => simp
  | some n =>
    have hle : ∀ a b : Char, a ≤ b ↔ a.toNat ≤ b.toNat := fun a b => Iff.rfl
    have hdigit : c.isDigit ↔ 48 ≤ c.toNat ∧ c.toNat ≤ 57 := by
      rw [Char.isDigit, Bool.and_eq_true, decide_eq_true_eq, decide_eq_true_eq]
      exact Iff.rfl
    simp only [List.foldl_cons, List.foldl_nil, hdigit, hle, Char.reduceToNat, Option.bind_eq_bind, Option.bind_some,
      Option.map_some]
    grind

theorem digits?_eq_some_iff (s : List Char) (n : Nat) :
    digits? 10 s = some n ↔ (∀ c ∈ s, c.isDigit) ∧ n = Nat.ofDigitChars 10 s 0 := by
  induction s using List.reverseRecOn generalizing n with
  | nil => simpa [digits?] using eq_comm
  | append_singleton s c ih =>
    have hvalue : Nat.ofDigitChars 10 (s ++ [c]) 0 = Nat.ofDigitChars 10 s 0 * 10 + (c.toNat - 48) := by
      rw [Nat.ofDigitChars_append, Nat.ofDigitChars_cons, Nat.ofDigitChars_nil, Nat.mul_comm]
      rfl
    rw [digits?_append_singleton, hvalue]
    by_cases hc : c.isDigit
    · simp only [hc, if_true, Option.map_eq_some_iff, ih]
      grind
    · have hmem : ¬∀ d ∈ s ++ [c], d.isDigit := fun h => hc (h c (by simp))
      rw [if_neg hc]
      simp only [hmem, reduceCtorEq, false_and]

theorem Width.holds_iff (w : Width) (n : Int) : w.holds n ↔ w.least ≤ n ∧ n ≤ w.greatest := by
  simp [Width.holds]

theorem bounded?_eq_some_iff (w : Width) (s : List Char) (n : Int) : bounded? w 10 s = some n ↔ Writes w s n := by
  unfold bounded?
  rw [Option.filter_eq_some_iff, Width.holds_iff, Writes]
  refine and_congr_left fun _ => ⟨fun h => ?_, ?_⟩
  · split at h
    · cases h
    · next r =>
      split at h
      · cases h
      · next hr =>
        obtain ⟨m, hm, rfl⟩ : ∃ m, digits? 10 r = some m ∧ -(m : Int) = n := by simpa [Option.bind_eq_some_iff] using h
        obtain ⟨hall, rfl⟩ := (digits?_eq_some_iff r m).mp hm
        exact ⟨r, by simpa using hr, hall, .inr (.inr ⟨rfl, rfl⟩)⟩
    · next r =>
      split at h
      · cases h
      · next hr =>
        obtain ⟨m, hm, rfl⟩ := Option.map_eq_some_iff.mp h
        obtain ⟨hall, rfl⟩ := (digits?_eq_some_iff r m).mp hm
        exact ⟨r, by simpa using hr, hall, .inr (.inl ⟨rfl, rfl⟩)⟩
    · next hnil _ _ =>
      obtain ⟨m, hm, rfl⟩ := Option.map_eq_some_iff.mp h
      obtain ⟨hall, rfl⟩ := (digits?_eq_some_iff s m).mp hm
      exact ⟨s, hnil, hall, .inl ⟨rfl, rfl⟩⟩
  · rintro ⟨digits, hne, hall, hs⟩
    have hdigits := (digits?_eq_some_iff digits _).mpr ⟨hall, rfl⟩
    rcases hs with ⟨rfl, rfl⟩ | ⟨rfl, rfl⟩ | ⟨rfl, rfl⟩
    · split
      · exact absurd rfl hne
      · exact absurd (hall '-' (by simp)) (by decide)
      · exact absurd (hall '+' (by simp)) (by decide)
      · rw [hdigits]
        rfl
    · simp [hne, hdigits]
    · simp [hne, hdigits]

end Stencil.Decimal
