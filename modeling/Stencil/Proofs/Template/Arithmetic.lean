import Stencil.Proofs.Decimal.Integer
import Stencil.Template.Filter.Number

set_option autoImplicit false
set_option relaxedAutoImplicit false

/-!
Arithmetic on the integers of a document. Main statement: on signed integers the result is the exact one wherever it is
signed itself; with any other integer the calculation is one on floats.
-/

namespace Stencil.Template

open Stencil.Json

/-- An integer of a document: of 64 bits, with a sign or without one. -/
def IsInteger (n : Int) : Prop := isSigned n ∨ isUnsigned n

/-- `a` divided by `b` is `q`, truncated toward zero, and `r` remains, with the sign of `a`. -/
structure IsDivision (a b q r : Int) : Prop where
  exact : a = b * q + r
  small : r.natAbs < b.natAbs
  nonneg : 0 ≤ a → 0 ≤ r
  nonpos : a ≤ 0 → r ≤ 0

/-- The exact result of an operation. There is none of a division by zero. -/
def Arithmetic.Gives : Arithmetic → Int → Int → Int → Prop
  | .add, a, b, c => c = a + b
  | .sub, a, b, c => c = a - b
  | .mul, a, b, c => c = a * b
  | .div, a, b, c => ∃ r, IsDivision a b c r
  | .mod, a, b, c => ∃ q, IsDivision a b q c

section Division

variable {a b q r : Int}

theorem isDivision_tdiv_tmod (h : b ≠ 0) : IsDivision a b (a.tdiv b) (a.tmod b) := by
  refine ⟨(Int.mul_tdiv_add_tmod a b).symm, ?_, Int.tmod_nonneg b, fun ha => ?_⟩
  · rw [Int.natAbs_tmod]
    exact Nat.mod_lt _ (Int.natAbs_pos.mpr h)
  · have hneg : 0 ≤ (-a).tmod b := Int.tmod_nonneg b (Int.neg_nonneg_of_nonpos ha)
    rw [Int.neg_tmod] at hneg
    omega

theorem IsDivision.ne_zero (h : IsDivision a b q r) : b ≠ 0 := by
  rintro rfl
  exact absurd h.small (Nat.not_lt_zero _)

theorem IsDivision.tdiv_tmod (h : IsDivision a b q r) : a.tdiv b = q ∧ a.tmod b = r := by
  have hexact := h.exact
  have hsmall := h.small
  rcases Int.le_total 0 a with ha | ha
  · have hr := h.nonneg ha
    exact (Int.tdiv_tmod_unique ha h.ne_zero).mpr ⟨by omega, hr, by omega⟩
  · have hr := h.nonpos ha
    exact (Int.tdiv_tmod_unique' ha h.ne_zero).mpr ⟨by omega, by omega, hr⟩

theorem isSigned_iff {n : Int} : isSigned n ↔ -9223372036854775808 ≤ n ∧ n ≤ 9223372036854775807 :=
  Decimal.Width.holds_iff .signed64 n

/-- A quotient is no greater than what is divided, so only that of the least integer by minus one is out of range. -/
theorem IsDivision.isSigned_quotient (h : IsDivision a b q r) (ha : isSigned a)
    (hleast : ¬(a = Decimal.Width.signed64.least ∧ b = -1)) : isSigned q := by
  obtain ⟨hfrom, hto⟩ := isSigned_iff.mp ha
  have hle : q.natAbs ≤ a.natAbs := by
    rw [← h.tdiv_tmod.1]
    exact Int.natAbs_tdiv_le_natAbs a b
  have hlimit : q ≠ 9223372036854775808 := by
    rintro rfl
    have hexact := h.exact
    have hsmall := h.small
    have hfirst : a = Decimal.Width.signed64.least := by
      change a = -9223372036854775808
      omega
    have hnonpos := h.nonpos (by omega)
    exact hleast ⟨hfirst, by omega⟩
  rw [isSigned_iff]
  omega

theorem IsDivision.isSigned_remainder (h : IsDivision a b q r) (ha : isSigned a) : isSigned r := by
  obtain ⟨hfrom, hto⟩ := isSigned_iff.mp ha
  have hle : r.natAbs ≤ a.natAbs := by
    rw [← h.tdiv_tmod.2, Int.natAbs_tmod]
    exact Nat.mod_le _ _
  have hnonneg := h.nonneg
  have hnonpos := h.nonpos
  rw [isSigned_iff]
  omega

end Division

namespace Arithmetic

variable {op : Arithmetic} {a b c : Int} {v : Value}

theorem signedResult_eq_ok {n : Int} (h : signedResult n = .ok v) : isSigned n ∧ v = .ofInt n := by
  unfold signedResult at h
  split at h
  · next hn =>
    cases h
    exact ⟨hn, rfl⟩
  · cases h

theorem gives_of_onIntegers (ha : isSigned a) (h : op.onIntegers a b = .ok v) :
    ∃ c, op.Gives a b c ∧ isSigned c ∧ v = .ofInt c := by
  unfold onIntegers at h
  cases op with
  | add => exact ⟨a + b, rfl, signedResult_eq_ok h⟩
  | sub => exact ⟨a - b, rfl, signedResult_eq_ok h⟩
  | mul => exact ⟨a * b, rfl, signedResult_eq_ok h⟩
  | div =>
    dsimp only at h
    split at h
    case isTrue => cases h
    case isFalse hb => exact ⟨a.tdiv b, ⟨_, isDivision_tdiv_tmod hb⟩, signedResult_eq_ok h⟩
  | mod =>
    dsimp only at h
    split at h
    case isTrue => cases h
    case isFalse hb =>
      have hdivision : IsDivision a b (a.tdiv b) (a.tmod b) := isDivision_tdiv_tmod hb
      split at h
      · cases h
        exact ⟨a.tmod b, ⟨_, hdivision⟩, hdivision.isSigned_remainder ha, rfl⟩
      · cases h

theorem onIntegers_of_gives (ha : isSigned a) (hc : isSigned c) (h : op.Gives a b c)
    (hleast : ¬(op = .mod ∧ a = Decimal.Width.signed64.least ∧ b = -1)) :
    op.onIntegers a b = .ok (.ofInt c) := by
  have hresult : signedResult c = .ok (.ofInt c) := if_pos hc
  unfold onIntegers
  cases op with
  | add | sub | mul =>
    cases h
    exact hresult
  | div =>
    obtain ⟨r, hdivision⟩ := h
    rw [if_neg hdivision.ne_zero, hdivision.tdiv_tmod.1]
    exact hresult
  | mod =>
    obtain ⟨q, hdivision⟩ := h
    have hq : isSigned q := hdivision.isSigned_quotient ha fun hlimit => hleast ⟨rfl, hlimit⟩
    dsimp only
    rw [if_neg hdivision.ne_zero, hdivision.tdiv_tmod.1, hdivision.tdiv_tmod.2, if_pos hq]

theorem apply_of_signed (ha : isSigned a) (hb : isSigned b) : op.apply (.ofInt a) (.ofInt b) = op.onIntegers a b := by
  have hsigned {n : Int} (hn : isSigned n) : (Value.ofInt n).num?.bind Number.signed? = some n := if_pos hn
  rw [apply, hsigned ha, hsigned hb]

theorem apply_of_not_signed (h : ¬(isSigned a ∧ isSigned b)) :
    op.apply (.ofInt a) (.ofInt b) = op.onFloats (Decimal.ofInt a) (Decimal.ofInt b) := by
  have hunsigned {n : Int} (hn : ¬isSigned n) : (Value.ofInt n).num?.bind Number.signed? = none := if_neg hn
  unfold apply
  split
  · next m n hm hn =>
    have ha : isSigned a := by
      by_contra ha
      cases (hunsigned ha).symm.trans hm
    have hb : ¬isSigned b := fun hb => h ⟨ha, hb⟩
    cases (hunsigned hb).symm.trans hn
  · rfl

theorem real_of_ofFloat? {z : Float} {n : Number} (h : Number.ofFloat? z = some n) :
    ∃ x : Float, x.isFinite ∧ Value.num n = .num (.real x) := by
  unfold Number.ofFloat? at h
  by_cases hfinite : z.isFinite
  · rw [if_pos hfinite] at h
    cases h
    exact ⟨z, hfinite, rfl⟩
  · rw [if_neg hfinite] at h
    cases h

theorem real_of_onFloats {x y : Float} (h : op.onFloats x y = .ok v) :
    (op = .div ∨ op = .mod → (y == 0.0) = false) ∧ ∃ z : Float, z.isFinite ∧ v = .num (.real z) := by
  unfold onFloats at h
  cases op with
  | add | sub | mul =>
    dsimp only at h
    split at h
    case h_1 n hn =>
      cases h
      exact ⟨by simp, real_of_ofFloat? hn⟩
    case h_2 => cases h
  | div | mod =>
    dsimp only at h
    split at h
    case isTrue => cases h
    case isFalse hy =>
      split at h
      case h_1 n hn =>
        cases h
        exact ⟨fun _ => Bool.eq_false_iff.mpr hy, real_of_ofFloat? hn⟩
      case h_2 => cases h

theorem onFloats_sub {x y : Float} (h : (x - y).isFinite) : onFloats .sub x y = .ok (.num (.real (x - y))) := by
  have hnumber : Number.ofFloat? (x - y) = some (.real (x - y)) := if_pos h
  unfold onFloats
  dsimp only
  rw [hnumber]

theorem exists_gives (h : op = .div ∨ op = .mod → b ≠ 0) : ∃ c, op.Gives a b c := by
  cases op with
  | add | sub | mul => exact ⟨_, rfl⟩
  | div => exact ⟨_, _, isDivision_tdiv_tmod (h (.inl rfl))⟩
  | mod => exact ⟨_, _, isDivision_tdiv_tmod (h (.inr rfl))⟩

/-- With signed integers, what is returned is their exact result, and it is returned if it is signed too. The remainder
of the least one by minus one stays open. With any other integer the calculation is one on the nearest floats: what is
returned is a finite float, and only where there is an exact result. -/
theorem apply_integers (op : Arithmetic) (a b : Int) :
    (isSigned a → isSigned b →
      (∀ v, op.apply (.ofInt a) (.ofInt b) = .ok v → ∃ c, op.Gives a b c ∧ isSigned c ∧ v = .ofInt c) ∧
      ∀ c, op.Gives a b c → isSigned c → ¬(op = .mod ∧ a = Decimal.Width.signed64.least ∧ b = -1) →
        op.apply (.ofInt a) (.ofInt b) = .ok (.ofInt c)) ∧
    (¬(isSigned a ∧ isSigned b) →
      op.apply (.ofInt a) (.ofInt b) = op.onFloats (Decimal.ofInt a) (Decimal.ofInt b) ∧
      ∀ v, op.apply (.ofInt a) (.ofInt b) = .ok v →
        (∃ c, op.Gives a b c) ∧ ∃ x : Float, x.isFinite ∧ v = .num (.real x)) := by
  constructor
  · intro ha hb
    rw [apply_of_signed ha hb]
    exact ⟨fun v hv => gives_of_onIntegers ha hv, fun c hgives hc hleast => onIntegers_of_gives ha hc hgives hleast⟩
  · intro hfloat
    rw [apply_of_not_signed hfloat]
    refine ⟨rfl, fun v hv => ?_⟩
    obtain ⟨hdivisor, hreal⟩ := real_of_onFloats hv
    refine ⟨exists_gives fun hop => ?_, hreal⟩
    rintro rfl
    have hzero : (Decimal.ofInt 0 == 0.0) = true := by decide +kernel
    cases hzero.symm.trans (hdivisor hop)

theorem remainder_and_difference_are_calculated :
    (Arithmetic.apply .mod (.ofInt (-7)) (.ofInt 3) = .ok (.ofInt (-1)) ∧
      ∃ c, Arithmetic.Gives .mod (-7) 3 c ∧ isSigned c ∧ Value.ofInt (-1) = .ofInt c) ∧
    (∃ c, Arithmetic.Gives .sub 18446744073709551615 1 c) ∧ ∃ x : Float, x.isFinite ∧
      Arithmetic.apply .sub (.ofInt 18446744073709551615) (.ofInt 1) = .ok (.num (.real x)) := by
  obtain ⟨hexact, hreturned⟩ := (apply_integers .mod (-7) 3).1 (by decide) (by decide)
  have hgives : Arithmetic.Gives .mod (-7) 3 (-1) := ⟨-2, by decide, by decide, by decide, by decide⟩
  have hmod := hreturned (-1) hgives (by decide) (by decide)
  obtain ⟨hfloats, hreal⟩ := (apply_integers .sub 18446744073709551615 1).2 (by decide)
  have hsub := hfloats.trans (onFloats_sub (by decide +kernel))
  obtain ⟨hsome, x, hx, hvalue⟩ := hreal _ hsub
  exact ⟨⟨hmod, hexact _ hmod⟩, hsome, x, hx, by rw [hsub, hvalue]⟩

/-- The greatest integer without a sign, less one, is a float, and the least one with a sign leaves no remainder by minus
one. -/
theorem integers_need_not_stay_exact :
    (¬∀ (op : Arithmetic) (a b : Int) (v : Value), IsInteger a → IsInteger b →
      op.apply (.ofInt a) (.ofInt b) = .ok v → ∃ c, op.Gives a b c ∧ v = .ofInt c) ∧
    ¬∀ (op : Arithmetic) (a b c : Int), isSigned a → isSigned b → op.Gives a b c → isSigned c →
      ∃ v, op.apply (.ofInt a) (.ofInt b) = .ok v := by
  constructor
  · intro hexact
    have hfloats : Arithmetic.apply .sub (.ofInt 18446744073709551615) (.ofInt 1) = _ :=
      apply_of_not_signed (by decide)
    have hsub := hfloats.trans (onFloats_sub (by decide +kernel))
    obtain ⟨c, -, hc⟩ := hexact .sub 18446744073709551615 1 _ (.inr (by decide)) (.inl (by decide)) hsub
    cases hc
  · intro hreturned
    have hgives : Arithmetic.Gives .mod (-9223372036854775808) (-1) 0 :=
      ⟨9223372036854775808, by decide, by decide, by decide, by decide⟩
    obtain ⟨v, hv⟩ := hreturned .mod (-9223372036854775808) (-1) 0 (by decide) (by decide) hgives (by decide)
    have hoverflow : Arithmetic.apply .mod (.ofInt (-9223372036854775808)) (.ofInt (-1)) = .error .overflow := rfl
    cases hoverflow.symm.trans hv

end Arithmetic

end Stencil.Template
