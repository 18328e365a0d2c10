import Mathlib.Algebra.Group.Nat.Defs
import Stencil.Proofs.Text.Utf8

set_option autoImplicit false
set_option relaxedAutoImplicit false

/-!
Lines of bytes and of texts. Main statement: the lines of bytes, each read as text on its own, are the lines of the text
that all the bytes are read as.
-/

namespace Stencil.Text

/-- A row is cut into lines behind every end. What is left behind the last one is a line too, unless it is empty. -/
inductive AreLines {α : Type} (e : α) : List α → List (List α) → Prop
  | nil : AreLines e [] []
  | rest {l} (filled : l ≠ []) (unended : e ∉ l) : AreLines e l [l]
  | line {l s ls} (unended : e ∉ l) (rest : AreLines e s ls) : AreLines e (l ++ e :: s) ((l ++ [e]) :: ls)

section AreLines

variable {α : Type} {e : α} {s r : List α} {ls rs : List (List α)}

theorem eq_of_append_cons_eq {l l' r' : List α} (hl : e ∉ l) (hl' : e ∉ l') (h : l ++ e :: r = l' ++ e :: r') :
    l = l' ∧ r = r' := by
  rcases List.append_eq_append_iff.mp h with ⟨x, rfl, hx⟩ | ⟨x, rfl, hx⟩
  · cases x with
    | nil => exact ⟨(List.append_nil l).symm, (List.cons.inj hx).2⟩
    | cons d x =>
      obtain rfl : e = d := (List.cons.inj hx).1
      simp at hl'
  · cases x with
    | nil => exact ⟨List.append_nil l', (List.cons.inj hx).2.symm⟩
    | cons d x =>
      obtain rfl : e = d := (List.cons.inj hx).1
      simp at hl

theorem AreLines.unique (h : AreLines e s ls) (h' : AreLines e s rs) : ls = rs := by
  induction h generalizing rs with
  | nil =>
    generalize hs : [] = s at h'
    cases h' with
    | nil => rfl
    | rest hfilled _ => exact absurd hs.symm hfilled
    | line _ _ => simp at hs
  | @rest l hfilled hunended =>
    cases h' with
    | nil => exact absurd rfl hfilled
    | rest _ _ => rfl
    | line _ _ => simp at hunended
  | @line l s ls hunended _ ih =>
    generalize hs : l ++ e :: s = t at h'
    cases h' with
    | nil => simp at hs
    | rest _ hunended' => simp [← hs] at hunended'
    | line hunended' hrest =>
      obtain ⟨rfl, rfl⟩ := eq_of_append_cons_eq hunended hunended' hs
      rw [ih hrest]

theorem AreLines.append (hended : ∀ l ∈ ls, ∃ a, e ∉ a ∧ l = a ++ [e]) (h : AreLines e r rs) :
    AreLines e (ls.flatten ++ r) (ls ++ rs) := by
  induction ls with
  | nil => exact h
  | cons l ls ih =>
    obtain ⟨⟨a, ha, rfl⟩, hrest⟩ := List.forall_mem_cons.mp hended
    have hline := AreLines.line ha (ih hrest)
    simpa using hline

end AreLines

namespace Utf8

/-! ### A byte of ASCII -/

theorem low_of_lead? {b : Nat} {l : Lead} (h : lead? b = some l) : 0x80 ≤ l.low := by
  unfold lead? at h
  split_ifs at h <;> cases h <;> decide

theorem follow_append {low : Nat} (hlow : 0x80 ≤ low) (n high bits : Nat) (a : List UInt8) {b : UInt8}
    (hb : b.toNat < 0x80) (s : List UInt8) :
    follow n low high bits (a ++ b :: s) =
      ((follow n low high bits a).1, (follow n low high bits a).2 ++ b :: s) := by
  induction a generalizing n low high bits with
  | nil =>
    cases n with
    | zero => rfl
    | succ n =>
      have hcut : ¬(low ≤ b.toNat ∧ b.toNat ≤ high) := by omega
      simp [follow, hcut]
  | cons x a ih =>
    cases n with
    | zero => rfl
    | succ n =>
      simp only [List.cons_append, follow]
      split
      · exact ih (Nat.le_refl _) ..
      · rfl

theorem characters_append_ascii (a : List UInt8) {b : UInt8} (hb : b.toNat < 0x80) (s : List UInt8) :
    characters (a ++ b :: s) = characters a ++ some (Char.ofNat b.toNat) :: characters s := by
  fun_induction characters a with
  | case1 => rw [List.nil_append, characters, if_pos hb, List.nil_append]
  | case2 x a hx ih => rw [List.cons_append, characters, if_pos hx, ih, List.cons_append]
  | case3 x a hx hlead ih =>
    rw [List.cons_append, characters, if_neg hx, hlead]
    simp only [ih, List.cons_append]
  | case4 x a hx l hlead read ih =>
    have hread := follow_append (low_of_lead? hlead) l.following l.high (leadBits x.toNat l.following) a hb s
    rw [List.cons_append, characters, if_neg hx, hlead]
    simp only [hread]
    rw [ih, List.cons_append]

theorem decodeLossy_append_ascii (a : List UInt8) {b : UInt8} (hb : b.toNat < 0x80) (s : List UInt8) :
    (decodeLossy (a ++ b :: s)).toList =
      (decodeLossy a).toList ++ Char.ofNat b.toNat :: (decodeLossy s).toList := by
  simp [decodeLossy, characters_append_ascii a hb]

theorem decodeLossy_ne_nil {a : List UInt8} (h : a ≠ []) : (decodeLossy a).toList ≠ [] := by
  obtain ⟨b, r, rfl⟩ := List.exists_cons_of_ne_nil h
  rw [decodeLossy, String.toList_ofList, characters]
  split
  · simp
  · split <;> simp

/-! ### Ends of lines -/

theorem le_of_follow {n low high bits v : Nat} {r rest : List UInt8} (h : follow n low high bits r = (some v, rest)) :
    bits * 64 ^ n ≤ v := by
  induction r generalizing n low high bits with
  | nil =>
    cases n with
    | zero =>
      cases h
      simp
    | succ n => cases h
  | cons b r ih =>
    cases n with
    | zero =>
      cases h
      simp
    | succ n =>
      rw [follow] at h
      split at h
      · have hle := ih h
        calc bits * 64 ^ (n + 1) = bits * 64 * 64 ^ n := by rw [Nat.pow_succ', Nat.mul_assoc]
          _ ≤ (bits * 64 + (b.toNat - 0x80)) * 64 ^ n := Nat.mul_le_mul_right _ (Nat.le_add_right _ _)
          _ ≤ v := hle
      · cases h

theorem le_of_follow_succ {n low high bits v : Nat} {r rest : List UInt8}
    (h : follow (n + 1) low high bits r = (some v, rest)) : (bits * 64 + (low - 0x80)) * 64 ^ n ≤ v := by
  cases r with
  | nil => cases h
  | cons b r =>
    rw [follow] at h
    split at h
    · next hb =>
      have hbits : bits * 64 + (low - 0x80) ≤ bits * 64 + (b.toNat - 0x80) := by omega
      exact Nat.le_trans (Nat.mul_le_mul_right _ hbits) (le_of_follow h)
    · cases h

theorem exists_following_of_lead? {b : Nat} {l : Lead} (h : lead? b = some l) :
    ∃ n, l.following = n + 1 ∧ 0x80 ≤ (leadBits b l.following * 64 + (l.low - 0x80)) * 64 ^ n := by
  have htwo : leadBits b 1 = b - 0xC0 := rfl
  have hthree : leadBits b 2 = b - 0xE0 := rfl
  have hfour : leadBits b 3 = b - 0xF0 := rfl
  unfold lead? at h
  split_ifs at h
  all_goals
    obtain rfl := Option.some.inj h
    refine ⟨_, rfl, ?_⟩
    dsimp only
    omega

theorem le_of_lead? {b v : Nat} {l : Lead} {r rest : List UInt8} (hlead : lead? b = some l)
    (h : follow l.following l.low l.high (leadBits b l.following) r = (some v, rest)) : 0x80 ≤ v := by
  obtain ⟨n, hn, hle⟩ := exists_following_of_lead? hlead
  generalize leadBits b l.following = bits at h hle
  rw [hn] at h
  exact Nat.le_trans hle (le_of_follow_succ h)

theorem follow_suffix (n low high bits : Nat) (r : List UInt8) : (follow n low high bits r).2 <:+ r := by
  induction r generalizing n low high bits with
  | nil => cases n <;> exact List.suffix_refl _
  | cons b r ih =>
    cases n with
    | zero => exact List.suffix_refl _
    | succ n =>
      rw [follow]
      split
      · exact (ih ..).trans (List.suffix_cons b r)
      · exact List.suffix_refl _

theorem eq_of_ofNat_eq_newline {n : Nat} (h : Char.ofNat n = '\n') : n = 10 := by
  unfold Char.ofNat at h
  by_cases hvalid : n.isValidChar
  · rw [dif_pos hvalid] at h
    exact congrArg Char.toNat h
  · rw [dif_neg hvalid] at h
    exact absurd h (by decide)

theorem newline_not_mem_characters {a : List UInt8} (h : 10 ∉ a) : some '\n' ∉ characters a := by
  fun_induction characters a with
  | case1 => exact List.not_mem_nil
  | case2 b r hb ih =>
    obtain ⟨hfirst, hrest⟩ := not_or.mp (mt List.mem_cons.mpr h)
    rw [List.mem_cons, not_or]
    refine ⟨fun hnewline => hfirst ?_, ih hrest⟩
    have hnat := eq_of_ofNat_eq_newline (Option.some.inj hnewline).symm
    exact UInt8.toNat_inj.mp hnat.symm
  | case3 b r hb hlead ih =>
    rw [List.mem_cons, not_or]
    exact ⟨nofun, ih (mt (List.mem_cons_of_mem b) h)⟩
  | case4 b r hb l hlead read ih =>
    have hsuffix : read.2 <:+ r := follow_suffix ..
    rw [List.mem_cons, not_or]
    refine ⟨fun hnewline => ?_, ih fun hmem => h (List.mem_cons_of_mem b (hsuffix.subset hmem))⟩
    obtain ⟨v, hv, hnat⟩ := Option.map_eq_some_iff.mp hnewline.symm
    have hle : 0x80 ≤ v := le_of_lead? hlead (Prod.ext hv rfl)
    have hten := eq_of_ofNat_eq_newline hnat
    omega

theorem newline_not_mem_decodeLossy {a : List UInt8} (h : 10 ∉ a) : '\n' ∉ (decodeLossy a).toList := by
  rw [decodeLossy, String.toList_ofList]
  intro hmem
  obtain ⟨c, hc, hnewline⟩ := List.mem_map.mp hmem
  cases c with
  | none => exact absurd hnewline (by decide)
  | some c =>
    obtain rfl : c = '\n' := hnewline
    exact newline_not_mem_characters h hc

end Utf8

/-- The lines of bytes, each read as text on its own, are the lines of the text that all the bytes are read as. -/
theorem AreLines.decodeLossy {s : List UInt8} {ls : List (List UInt8)} (h : AreLines 10 s ls) :
    AreLines '\n' (Utf8.decodeLossy s).toList (ls.map fun l => (Utf8.decodeLossy l).toList) := by
  have hnil : (Utf8.decodeLossy []).toList = [] := by
    rw [Utf8.decodeLossy, Utf8.characters]
    rfl
  have hnewline (a s : List UInt8) : (Utf8.decodeLossy (a ++ 10 :: s)).toList =
      (Utf8.decodeLossy a).toList ++ '\n' :: (Utf8.decodeLossy s).toList :=
    Utf8.decodeLossy_append_ascii a (by decide) s
  induction h with
  | nil =>
    rw [hnil]
    exact .nil
  | rest hfilled hunended =>
    exact .rest (Utf8.decodeLossy_ne_nil hfilled) (Utf8.newline_not_mem_decodeLossy hunended)
  | line hunended _ ih =>
    rw [List.map_cons, hnewline, hnewline, hnil]
    exact .line (Utf8.newline_not_mem_decodeLossy hunended) ih

end Stencil.Text
