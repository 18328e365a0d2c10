import Mathlib.Data.List.Basic
import Stencil.Proofs.Text.Utf8

set_option autoImplicit false
set_option relaxedAutoImplicit false

/-!
The order of texts. Main statement: texts stand in the order of their bytes, although they are compared character by
character.
-/

namespace Stencil.Text.Utf8

variable {c d : Char}

/-- The characters are told apart by their lengths in bytes and the lead bytes of these, and within one length by the
digits of their numbers. -/
theorem utf8EncodeChar_lt (h : c < d) : String.utf8EncodeChar c < String.utf8EncodeChar d := by
  have hn : c.val.toNat < d.val.toNat := h
  have hd : d.val.toNat < 0xD800 ∨ 0xDFFF < d.val.toNat ∧ d.val.toNat < 0x110000 := d.valid
  rw [String.utf8EncodeChar, String.utf8EncodeChar]
  generalize c.val.toNat = n at hn ⊢
  generalize d.val.toNat = m at hn hd ⊢
  split_ifs <;>
    simp (disch := omega) only [List.cons_lt_cons_iff, List.not_lt_nil, List.nil_lt_cons, UInt8.lt_iff_toNat_lt,
      ← UInt8.toNat_inj, UInt8.toNat_ofNat', Nat.mod_eq_of_lt, and_true, and_false, or_false] <;>
    omega

theorem not_prefix_utf8EncodeChar (h : c ≠ d) : ¬String.utf8EncodeChar c <+: String.utf8EncodeChar d := by
  rintro ⟨z, hz⟩
  have hread : some c :: characters z = some d :: characters [] := by
    rw [← characters_utf8EncodeChar, ← characters_utf8EncodeChar, hz, List.append_nil]
  exact h (Option.some.inj (List.cons.inj hread).1)

/-- What is decided between two lists, one of which does not begin the other, is decided whatever follows. -/
theorem append_lt_append {α : Type} [LT α] {x y : List α} (s t : List α) (h : x < y) (hp : ¬x <+: y) :
    x ++ s < y ++ t := by
  induction x generalizing y with
  | nil => exact absurd List.nil_prefix hp
  | cons a x ih =>
    cases y with
    | nil => exact absurd h (List.not_lt_nil _)
    | cons b y =>
      rw [List.cons_append, List.cons_append, List.cons_lt_cons_iff]
      refine (List.cons_lt_cons_iff.mp h).imp_right fun ⟨hab, hxy⟩ => ⟨hab, ih hxy fun hpre => hp ?_⟩
      exact List.cons_prefix_cons.mpr ⟨hab, hpre⟩

theorem flatMap_utf8EncodeChar_lt {s t : List Char} (h : s < t) :
    s.flatMap String.utf8EncodeChar < t.flatMap String.utf8EncodeChar := by
  induction h with
  | @nil c _ =>
    have hlength : 0 < (String.utf8EncodeChar c).length := String.length_utf8EncodeChar c ▸ c.utf8Size_pos
    have hne : String.utf8EncodeChar c ≠ [] := List.ne_nil_of_length_pos hlength
    obtain ⟨b, rest, hc⟩ := List.exists_cons_of_ne_nil hne
    rw [List.flatMap_nil, List.flatMap_cons, hc]
    exact List.nil_lt_cons _ _
  | rel hlt =>
    rw [List.flatMap_cons, List.flatMap_cons]
    exact append_lt_append _ _ (utf8EncodeChar_lt hlt) (not_prefix_utf8EncodeChar (Char.ne_of_lt hlt))
  | cons _ ih =>
    rw [List.flatMap_cons, List.flatMap_cons]
    exact List.append_left_lt ih

theorem encode_lt_encode {s t : String} (h : s < t) : encode s < encode t := by
  rw [encode_eq_flatMap, encode_eq_flatMap]
  exact flatMap_utf8EncodeChar_lt (String.lt_iff.mp h)

theorem encode_le_encode_iff (s t : String) : encode s ≤ encode t ↔ s ≤ t := by
  constructor
  · intro h
    exact String.not_lt.mp fun hlt => List.not_lt.mpr h (encode_lt_encode hlt)
  · intro h
    by_cases hlt : s < t
    · exact List.le_of_lt (encode_lt_encode hlt)
    · obtain rfl : s = t := String.le_antisymm h (String.not_lt.mp hlt)
      exact List.le_refl _

end Stencil.Text.Utf8
