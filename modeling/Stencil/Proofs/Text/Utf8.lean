import Stencil.Text.Find
import Stencil.Text.Utf8
import Mathlib.Data.List.Basic
import Mathlib.Tactic.SplitIfs

set_option autoImplicit false
set_option relaxedAutoImplicit false

/-!
The bytes of a text. Main statements: reading them gives the text back, and wherever the bytes of one text stand among
those of another one, the text itself stands there.
-/

namespace Stencil.Text.Utf8

theorem encode_eq_flatMap (s : String) : encode s = s.toList.flatMap String.utf8EncodeChar := by
  rw [encode, String.toUTF8_eq_toByteArray, ← String.utf8Encode_toList, List.utf8Encode,
    List.toList_data_toByteArray]

private theorem toNat_ofNat {n : Nat} (h : n < 256) : (UInt8.ofNat n).toNat = n := by
  rw [UInt8.toNat_ofNat']
  exact Nat.mod_eq_of_lt h

private theorem follow_cons {k low high bits m : Nat} (r : List UInt8) (h : low ≤ m % 64 + 0x80)
    (h' : m % 64 + 0x80 ≤ high) :
    follow (k + 1) low high bits (UInt8.ofNat (m % 64 + 0x80) :: r) =
      follow k 0x80 0xBF (bits * 64 + m % 64) r := by
  rw [follow, toNat_ofNat (by omega), if_pos ⟨h, h'⟩, Nat.add_sub_cancel]

private theorem follow_tail {k bits m : Nat} (r : List UInt8) :
    follow (k + 1) 0x80 0xBF bits (UInt8.ofNat (m % 64 + 0x80) :: r) =
      follow k 0x80 0xBF (bits * 64 + m % 64) r :=
  follow_cons r (by omega) (by omega)

private theorem characters_cons_of_lead {k n : Nat} {l : Lead} {r rest : List UInt8} (hk : k < 256)
    (hb : 0x80 ≤ k) (hl : lead? k = some l)
    (hf : follow l.following l.low l.high (leadBits k l.following) r = (some n, rest)) :
    characters (UInt8.ofNat k :: r) = some (Char.ofNat n) :: characters rest := by
  rw [characters, toNat_ofNat hk, if_neg (Nat.not_lt.mpr hb), hl]
  simp only [hf, Option.map_some]

section Leads

variable {n : Nat}

theorem lead?_two (h : 0x80 ≤ n) (h' : n ≤ 0x7FF) :
    lead? (n / 64 % 32 + 0xC0) = some ⟨1, 0x80, 0xBF⟩ := by
  rw [lead?, if_pos (by omega)]

/-- The byte after the first of three lies within the announced bounds, since the number of the character is
neither so small that two bytes would do nor that of a surrogate. -/
theorem lead?_three (h : 0x800 ≤ n) (h' : n ≤ 0xFFFF) (hs : n < 0xD800 ∨ 0xDFFF < n) :
    ∃ low high, lead? (n / 4096 % 16 + 0xE0) = some ⟨2, low, high⟩ ∧
      low ≤ n / 64 % 64 + 0x80 ∧ n / 64 % 64 + 0x80 ≤ high := by
  rw [lead?]
  split_ifs
  · omega
  · exact ⟨_, _, rfl, by omega, by omega⟩
  · exact ⟨_, _, rfl, by omega, by omega⟩
  · exact ⟨_, _, rfl, by omega, by omega⟩
  all_goals omega

/-- The byte after the first of four lies within the announced bounds, since the number of the character is
neither so small that three bytes would do nor beyond the last. -/
theorem lead?_four (h : 0x10000 ≤ n) (h' : n < 0x110000) :
    ∃ low high, lead? (n / 262144 % 8 + 0xF0) = some ⟨3, low, high⟩ ∧
      low ≤ n / 4096 % 64 + 0x80 ∧ n / 4096 % 64 + 0x80 ≤ high := by
  rw [lead?]
  split_ifs
  · omega
  · omega
  · omega
  · omega
  · exact ⟨_, _, rfl, by omega, by omega⟩
  · exact ⟨_, _, rfl, by omega, by omega⟩
  · exact ⟨_, _, rfl, by omega, by omega⟩
  · omega

end Leads

private theorem characters_two {n : Nat} (r : List UInt8) (h : 0x80 ≤ n) (h' : n ≤ 0x7FF) :
    characters (UInt8.ofNat (n / 64 % 32 + 0xC0) :: UInt8.ofNat (n % 64 + 0x80) :: r) =
      some (Char.ofNat n) :: characters r := by
  have hn : leadBits (n / 64 % 32 + 0xC0) 1 * 64 + n % 64 = n := by
    change (n / 64 % 32 + 0xC0 - 0xC0) * 64 + n % 64 = n
    omega
  refine characters_cons_of_lead (by omega) (by omega) (lead?_two h h') ?_
  dsimp only
  rw [follow_tail, hn, follow]

private theorem characters_three {n : Nat} (r : List UInt8) (h : 0x800 ≤ n) (h' : n ≤ 0xFFFF)
    (hs : n < 0xD800 ∨ 0xDFFF < n) :
    characters (UInt8.ofNat (n / 4096 % 16 + 0xE0) :: UInt8.ofNat (n / 64 % 64 + 0x80) ::
      UInt8.ofNat (n % 64 + 0x80) :: r) = some (Char.ofNat n) :: characters r := by
  have hn : (leadBits (n / 4096 % 16 + 0xE0) 2 * 64 + n / 64 % 64) * 64 + n % 64 = n := by
    change ((n / 4096 % 16 + 0xE0 - 0xE0) * 64 + n / 64 % 64) * 64 + n % 64 = n
    omega
  obtain ⟨low, high, hl, hlow, hhigh⟩ := lead?_three h h' hs
  refine characters_cons_of_lead (by omega) (by omega) hl ?_
  dsimp only
  rw [follow_cons _ hlow hhigh, follow_tail, hn, follow]

private theorem characters_four {n : Nat} (r : List UInt8) (h : 0x10000 ≤ n) (h' : n < 0x110000) :
    characters (UInt8.ofNat (n / 262144 % 8 + 0xF0) :: UInt8.ofNat (n / 4096 % 64 + 0x80) ::
      UInt8.ofNat (n / 64 % 64 + 0x80) :: UInt8.ofNat (n % 64 + 0x80) :: r) =
      some (Char.ofNat n) :: characters r := by
  have hn : ((leadBits (n / 262144 % 8 + 0xF0) 3 * 64 + n / 4096 % 64) * 64 + n / 64 % 64) * 64 +
      n % 64 = n := by
    change (((n / 262144 % 8 + 0xF0 - 0xF0) * 64 + n / 4096 % 64) * 64 + n / 64 % 64) * 64 + n % 64 = n
    omega
  obtain ⟨low, high, hl, hlow, hhigh⟩ := lead?_four h h'
  refine characters_cons_of_lead (by omega) (by omega) hl ?_
  dsimp only
  rw [follow_cons _ hlow hhigh, follow_tail, follow_tail, hn, follow]

theorem characters_utf8EncodeChar (c : Char) (r : List UInt8) :
    characters (String.utf8EncodeChar c ++ r) = some c :: characters r := by
  have hc : Char.ofNat c.val.toNat = c := Char.ofNat_toNat c
  have hv : c.val.toNat < 0xD800 ∨ 0xDFFF < c.val.toNat ∧ c.val.toNat < 0x110000 := c.valid
  rw [String.utf8EncodeChar]
  generalize c.val.toNat = n at hc hv ⊢
  rw [← hc]
  split_ifs with h1 h2 h3
  · have h : (UInt8.ofNat n).toNat = n := toNat_ofNat (by omega)
    rw [List.singleton_append, characters, h, if_pos (by omega)]
  · exact characters_two r (by omega) h2
  · exact characters_three r (by omega) h3 (hv.imp_right And.left)
  · exact characters_four r (by omega) (by omega)

theorem characters_append (s : List Char) (r : List UInt8) :
    characters (s.flatMap String.utf8EncodeChar ++ r) = s.map some ++ characters r := by
  induction s with
  | nil => rfl
  | cons c s ih =>
    rw [List.flatMap_cons, List.append_assoc, characters_utf8EncodeChar, ih, List.map_cons, List.cons_append]

theorem characters_encode (s : String) : characters (encode s) = s.toList.map some := by
  have h := characters_append s.toList []
  rwa [List.append_nil, ← encode_eq_flatMap, characters, List.append_nil] at h

theorem decode?_encode (s : String) : decode? (encode s) = some s := by
  rw [decode?, characters_encode]
  have h : (s.toList.map some).mapM id = some s.toList := by
    rw [List.mapM_map]
    exact (List.mapM_pure).trans (by simp)
  rw [h, Option.map_some, String.ofList_toList]

theorem decodeLossy_encode (s : String) : decodeLossy (encode s) = s := by
  rw [decodeLossy, characters_encode, List.map_map]
  simp [Function.comp_def]

theorem toNat_of_mem_utf8EncodeChar {c : Char} {b : UInt8} (h : b ∈ String.utf8EncodeChar c) (hb : b.toNat < 0x80) :
    c.toNat = b.toNat := by
  rw [String.utf8EncodeChar] at h
  change c.val.toNat = b.toNat
  generalize c.val.toNat = n at h ⊢
  split_ifs at h <;> simp only [List.mem_cons, List.not_mem_nil, or_false] at h
  · rw [h, UInt8.toNat_ofNat']
    omega
  · rcases h with h | h <;> rw [h, UInt8.toNat_ofNat'] at hb <;> omega
  · rcases h with h | h | h <;> rw [h, UInt8.toNat_ofNat'] at hb <;> omega
  · rcases h with h | h | h | h <;> rw [h, UInt8.toNat_ofNat'] at hb <;> omega

/-! ### Where a text stands in another one -/

theorem length_encode (s : String) : (encode s).length = s.utf8ByteSize := rfl

theorem encode_append (s t : String) : encode (s ++ t) = encode s ++ encode t := by
  rw [encode_eq_flatMap, encode_eq_flatMap, encode_eq_flatMap, String.toList_append, List.flatMap_append]

theorem utf8ByteSize_ofList (s : List Char) : (String.ofList s).utf8ByteSize = Find.byteLength s := by
  rw [← length_encode, encode_eq_flatMap, String.toList_ofList]
  induction s with
  | nil => rfl
  | cons c s ih => rw [List.flatMap_cons, List.length_append, ih, String.length_utf8EncodeChar, Find.byteLength_cons]

theorem eq_append_of_encode_eq {s t : String} {r : List UInt8} (h : encode s = encode t ++ r) :
    ∃ u, s = t ++ u ∧ encode u = r := by
  have hcharacters : s.toList.map some = t.toList.map some ++ characters r := by
    rw [← characters_append, ← encode_eq_flatMap, ← h, characters_encode]
  obtain ⟨t', u, hs, ht, -⟩ := List.map_eq_append_iff.mp hcharacters
  have ht' : t' = t.toList := List.map_injective_iff.mpr (fun _ _ => Option.some.inj) ht
  have hsum : s = t ++ String.ofList u := String.toList_injective (by simp [hs, ht'])
  refine ⟨String.ofList u, hsum, ?_⟩
  rw [hsum, encode_append] at h
  exact List.append_cancel_left h

theorem getElem?_encode {s : String} {p : String.Pos.Raw} (h : p < s.rawEndPos) :
    (encode s)[p.byteIdx]? = some (s.getUTF8Byte p h) :=
  List.getElem?_eq_getElem (l := encode s) (i := p.byteIdx) h

theorem exists_of_encode_eq {s t : String} (ht : t ≠ "") {x y : List UInt8} (h : encode s = x ++ (encode t ++ y)) :
    ∃ a b, s = a ++ (t ++ b) ∧ encode a = x ∧ encode b = y := by
  -- the first byte of a text cannot be one that continues a character
  have hvalid : String.Pos.Raw.IsValid s ⟨x.length⟩ := by
    have hpos : 0 < t.rawEndPos := by
      rw [String.Pos.Raw.lt_iff]
      simpa [String.utf8ByteSize_eq_zero_iff, Nat.pos_iff_ne_zero] using ht
    have hlt : (⟨x.length⟩ : String.Pos.Raw) < s.rawEndPos := by
      have hlength := congrArg List.length h
      rw [length_encode, List.length_append, List.length_append, length_encode] at hlength
      rw [String.Pos.Raw.lt_iff] at hpos ⊢
      change 0 < t.utf8ByteSize at hpos
      change x.length < s.utf8ByteSize
      omega
    have hbyte : s.getUTF8Byte ⟨x.length⟩ hlt = t.getUTF8Byte 0 hpos := by
      refine Option.some.inj ?_
      rw [← getElem?_encode hlt, ← getElem?_encode hpos, h, List.getElem?_append_right (Nat.le_refl _), Nat.sub_self]
      exact List.getElem?_append_left hpos
    refine String.Pos.Raw.isValid_iff_isUTF8FirstByte.mpr (.inr ⟨hlt, ?_⟩)
    rw [hbyte]
    exact String.isUTF8FirstByte_getUTF8Byte_zero
  obtain ⟨a, r, hs, hx⟩ := String.Pos.Raw.isValid_iff_exists_append.mp hvalid
  have hlength : (encode a).length = x.length := (congrArg String.Pos.Raw.byteIdx hx).symm
  rw [hs, encode_append] at h
  obtain ⟨ha, hr⟩ := List.append_inj h hlength
  obtain ⟨b, rfl, hb⟩ := eq_append_of_encode_eq hr
  exact ⟨a, b, hs, ha, hb⟩

end Stencil.Text.Utf8
