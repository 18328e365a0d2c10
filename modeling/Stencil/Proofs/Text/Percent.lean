import Stencil.Proofs.Text.Utf8
import Stencil.Text.Percent

set_option autoImplicit false
set_option relaxedAutoImplicit false

/-!
A text that is written as a parameter of an address. Main statement: it is read back as it was.
-/

namespace Stencil.Text.Percent

def IsOrdinary (c : Char) : Prop := c ≠ '%' ∧ c ≠ '+'

instance (c : Char) : Decidable (IsOrdinary c) := inferInstanceAs (Decidable (_ ∧ _))

theorem forall_byte {p : UInt8 → Bool} (h : (List.range 256).all (fun n => p (UInt8.ofNat n)) = true) (b : UInt8) :
    p b = true := by
  have hb := List.all_eq_true.mp h b.toNat (List.mem_range.mpr b.toNat_lt)
  rwa [UInt8.ofNat_toNat] at hb

theorem escapeByte_of_isPlain {b : UInt8} (h : isPlain b = true) :
    ∃ c, escapeByte b = [c] ∧ IsOrdinary c ∧ String.utf8EncodeChar c = [b] := by
  let standsForItself (b : UInt8) : Bool :=
    decide (IsOrdinary (Char.ofNat b.toNat)) && String.utf8EncodeChar (Char.ofNat b.toNat) == [b]
  have hall : (!isPlain b || standsForItself b) = true :=
    forall_byte (p := fun b => !isPlain b || standsForItself b) (by decide +kernel) b
  rw [h, Bool.not_true, Bool.false_or, Bool.and_eq_true] at hall
  exact ⟨Char.ofNat b.toNat, if_pos h, of_decide_eq_true hall.1, eq_of_beq hall.2⟩

theorem hexValue?_hexDigit {n : Nat} (h : n < 16) : hexValue? (hexDigit n) = some n := by
  have hall : (List.range 16).all (fun n => hexValue? (hexDigit n) == some n) = true := by decide +kernel
  exact eq_of_beq (List.all_eq_true.mp hall n (List.mem_range.mpr h))

theorem bytesOf_cons {c : Char} (h : IsOrdinary c) (r : List Char) :
    bytesOf (c :: r) = String.utf8EncodeChar c ++ bytesOf r := by
  obtain ⟨hpercent, hplus⟩ := h
  rw [bytesOf.eq_def]
  split <;> simp_all

theorem bytesOf_ofByte (b : UInt8) (r : List Char) : bytesOf (ofByte b ++ r) = b :: bytesOf r := by
  have hb : b.toNat < 256 := b.toNat_lt
  have hhigh : hexValue? (hexDigit (b.toNat / 16)) = some (b.toNat / 16) := hexValue?_hexDigit (by omega)
  have hlow : hexValue? (hexDigit (b.toNat % 16)) = some (b.toNat % 16) := hexValue?_hexDigit (by omega)
  have hvalue : 16 * (b.toNat / 16) + b.toNat % 16 = b.toNat := Nat.div_add_mod b.toNat 16
  rw [ofByte, List.cons_append, List.cons_append, List.cons_append, List.nil_append, bytesOf, hhigh, hlow]
  dsimp only
  rw [hvalue, UInt8.ofNat_toNat]

theorem bytesOf_escapeByte (b : UInt8) (r : List Char) : bytesOf (escapeByte b ++ r) = b :: bytesOf r := by
  by_cases hplain : isPlain b = true
  · obtain ⟨c, hc, hordinary, hbyte⟩ := escapeByte_of_isPlain hplain
    rw [hc, List.singleton_append, bytesOf_cons hordinary, hbyte, List.singleton_append]
  · rw [escapeByte, if_neg hplain]
    split
    · next hspace =>
      subst hspace
      rfl
    · exact bytesOf_ofByte b r

theorem bytesOf_flatMap_escapeByte (bs : List UInt8) : bytesOf (bs.flatMap escapeByte) = bs := by
  induction bs with
  | nil => rfl
  | cons b bs ih => rw [List.flatMap_cons, bytesOf_escapeByte, ih]

theorem unescape_escape (s : String) : unescape (escape s) = s := by
  rw [unescape, escape, bytesOf_flatMap_escapeByte, Utf8.decodeLossy, Utf8.characters_encode,
    List.map_map]
  simp [Function.comp_def]

theorem all_escape {p : Char → Bool} (h : (List.range 256).all (fun n => (escapeByte (UInt8.ofNat n)).all p) = true)
    (s : String) : (escape s).all p = true := by
  rw [escape, List.all_flatMap, List.all_eq_true]
  exact fun b _ => forall_byte (p := fun b => (escapeByte b).all p) h b

end Stencil.Text.Percent
