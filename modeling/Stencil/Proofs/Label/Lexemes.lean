import Stencil.Proofs.Label.Spelling

set_option autoImplicit false
set_option relaxedAutoImplicit false

/-!
How a text divides into tokens. Main statement: nothing of a text is lost but its blanks, every token stands where its
offset says, one behind the other, and words are as long as they can be; and tokens that are written with single spaces
between them are read again.
-/

namespace Stencil.Label

open Stencil.Text

/-- A text from an offset on divides into tokens: blanks are passed over, and a token ends where what stands behind it
does not belong to it. -/
inductive Lexes : Nat → List Char → Tokens → Prop
  | nil {o} : Lexes o [] []
  | blank {o c s ts} (blank : Blank.isBlank c) (rest : Lexes (o + c.utf8Size) s ts) : Lexes o (c :: s) ts
  | token {o t s ts} (whole : t.IsWhole) (ends : t.EndsBefore s)
      (rest : Lexes (o + Find.byteLength t.spelling) s ts) : Lexes o (t.spelling ++ s) ((t, o) :: ts)

def IsSeam (a b : List Char) : Prop := ∀ c ∈ a.getLast?, ∀ d ∈ b.head?, ¬(isWordChar c ∧ isWordChar d)

/-- A word between two texts that cannot be made longer on either side. -/
structure IsMaximalWord (before w behind : List Char) : Prop where
  filled : w ≠ []
  inner : ∀ c ∈ w, isWordChar c
  beginning : ∀ c ∈ before.getLast?, ¬isWordChar c
  ending : ∀ c ∈ behind.head?, ¬isWordChar c

def spaced (ts : List Token) : List Char := List.intercalate [' '] (ts.map Token.spelling)

variable {o : Nat} {s : List Char} {ts : Tokens}

/-! ### Division -/

theorem firstToken_spec {c : Char} {r : List Char} (hc : ¬Blank.isBlank c) {t : Token} (h : firstToken c r = (t, s)) :
    c :: r = t.spelling ++ s ∧ t.IsWhole ∧ t.EndsBefore s := by
  unfold firstToken at h
  split at h
  · cases h
    exact ⟨rfl, trivial, fun _ _ => trivial⟩
  · cases h
    exact ⟨rfl, trivial, fun _ _ => trivial⟩
  · next hequals hdiffers =>
    split at h
    · next hsign =>
      cases h
      unfold special? at hsign
      split at hsign <;> cases hsign
      · exact ⟨rfl, trivial, fun d hd hd' => hequals s.tail rfl (List.eq_cons_of_mem_head? (hd' ▸ hd))⟩
      · exact ⟨rfl, trivial, fun d hd hd' => hdiffers s.tail rfl (List.eq_cons_of_mem_head? (hd' ▸ hd))⟩
      all_goals exact ⟨rfl, trivial, fun _ _ => trivial⟩
    · next hnone =>
      cases h
      have hword : isWordChar c := (isWordChar_iff c).mpr ⟨hc, hnone⟩
      refine ⟨by simp [Token.spelling], ⟨List.cons_ne_nil _ _, ?_⟩, fun d hd => ?_⟩
      · exact List.forall_mem_cons.mpr ⟨hword, List.all_eq_true.mp List.all_takeWhile⟩
      · have hhead := List.head?_dropWhile_not isWordChar r
        rw [Option.mem_def.mp hd] at hhead
        exact Bool.eq_false_iff.mp hhead

theorem lexes_tokensFrom (o : Nat) (s : List Char) : Lexes o s (tokensFrom o s) := by
  fun_induction tokensFrom o s with
  | case1 o => exact .nil
  | case2 o c r hc ih => exact .blank hc ih
  | case3 o c r hc t ih =>
    obtain ⟨hspelling, hwhole, hends⟩ := firstToken_spec hc rfl
    rw [hspelling]
    exact .token hwhole hends ih

theorem lexes_tokens (s : List Char) : Lexes 0 s (tokens s) := lexes_tokensFrom 0 s

/-! ### Nothing is lost -/

theorem Token.IsWhole.ne_nil {t : Token} (h : t.IsWhole) : t.spelling ≠ [] := by
  obtain ⟨c, r, hspelling, -⟩ := exists_spelling_eq_cons h
  simp [hspelling]

theorem Token.IsWhole.byteLength_pos {t : Token} (h : t.IsWhole) : 0 < Find.byteLength t.spelling := by
  obtain ⟨c, r, hspelling, -⟩ := exists_spelling_eq_cons h
  rw [hspelling, Find.byteLength_cons]
  exact Nat.add_pos_left c.utf8Size_pos _

theorem Token.IsWhole.not_isBlank {t : Token} (h : t.IsWhole) : ∀ c ∈ t.spelling, ¬Blank.isBlank c := by
  cases t with
  | word w => exact fun c hc => ((isWordChar_iff c).mp (h.2 c hc)).1
  | _ =>
    simp only [Token.spelling, List.mem_cons, List.not_mem_nil, or_false, forall_eq, forall_eq_or_imp]
    decide

theorem Lexes.isWhole (h : Lexes o s ts) : ∀ t ∈ kinds ts, t.IsWhole := by
  induction h with
  | nil => simp [kinds]
  | blank _ _ ih => exact ih
  | token hwhole _ _ ih => exact List.forall_mem_cons.mpr ⟨hwhole, ih⟩

theorem Lexes.flatMap_spelling (h : Lexes o s ts) :
    (kinds ts).flatMap Token.spelling = s.filter (!Blank.isBlank ·) := by
  induction h with
  | nil => rfl
  | blank hc _ ih => rw [ih, List.filter_cons_of_neg (by simp [hc])]
  | @token o t s ts hwhole _ _ ih =>
    have hspelling : t.spelling.filter (!Blank.isBlank ·) = t.spelling :=
      List.filter_eq_self.mpr (by simpa using hwhole.not_isBlank)
    rw [List.filter_append, hspelling, ← ih]
    rfl

/-! ### Offsets -/

theorem Lexes.le_of_mem (h : Lexes o s ts) {t : Token} {p : Nat} (hmem : (t, p) ∈ ts) : o ≤ p := by
  induction h with
  | nil => cases hmem
  | blank _ _ ih => exact (Nat.le_add_right _ _).trans (ih hmem)
  | token _ _ _ ih =>
    rcases List.mem_cons.mp hmem with heq | hmem
    · cases heq
      exact le_rfl
    · exact (Nat.le_add_right _ _).trans (ih hmem)

theorem Lexes.pairwise (h : Lexes o s ts) : ts.Pairwise (·.2 < ·.2) := by
  induction h with
  | nil => exact .nil
  | blank _ _ ih => exact ih
  | token hwhole _ hrest ih =>
    refine .cons (fun u hu => ?_) ih
    have hpos := hwhole.byteLength_pos
    have hle := hrest.le_of_mem hu
    omega

/-! ### Where tokens stand -/

theorem isSeam_spelling {t : Token} (hwhole : t.IsWhole) (hends : t.EndsBefore s) (a : List Char) :
    IsSeam (a ++ t.spelling) s := by
  intro c hc d hd hchars
  rw [List.getLast?_append_of_ne_nil _ hwhole.ne_nil] at hc
  cases t with
  | word w => exact hends d hd hchars.2
  | _ =>
    cases hc
    exact absurd hchars.1 (by decide)

theorem Lexes.exists_of_mem (h : Lexes o s ts) {a : List Char} (ho : o = Find.byteLength a) (hseam : IsSeam a s)
    {t : Token} {p : Nat} (hmem : (t, p) ∈ ts) :
    ∃ x y, a ++ s = x ++ (t.spelling ++ y) ∧ Find.byteLength x = p ∧ t.IsWhole ∧ t.EndsBefore y ∧
      IsSeam x (t.spelling ++ y) := by
  induction h generalizing a with
  | nil => cases hmem
  | @blank o c s ts hc _ ih =>
    have hchar : ¬isWordChar c := fun h => ((isWordChar_iff c).mp h).1 hc
    have hnext : IsSeam (a ++ [c]) s := by simp [IsSeam, hchar]
    simpa using ih (by simp [ho]) hnext hmem
  | @token o u s ts hwhole hends _ ih =>
    rcases List.mem_cons.mp hmem with heq | hmem
    · cases heq
      exact ⟨a, s, rfl, ho.symm, hwhole, hends, hseam⟩
    · simpa using ih (by simp [ho]) (isSeam_spelling hwhole hends a) hmem

theorem exists_of_mem_tokens {t : Token} {p : Nat} (h : (t, p) ∈ tokens s) :
    ∃ a b, s = a ++ (t.spelling ++ b) ∧ Find.byteLength a = p ∧ t.IsWhole ∧ t.EndsBefore b ∧
      IsSeam a (t.spelling ++ b) :=
  (lexes_tokens s).exists_of_mem (a := []) rfl (by simp [IsSeam]) h

theorem isMaximalWord_of_isSeam {a w b : List Char} (hwhole : Token.IsWhole (.word w))
    (hends : Token.EndsBefore (.word w) b) (hseam : IsSeam a (w ++ b)) : IsMaximalWord a w b := by
  obtain ⟨hfilled, hinner⟩ := hwhole
  refine ⟨hfilled, hinner, fun c hc hchar => ?_, hends⟩
  obtain ⟨d, r, rfl⟩ := List.exists_cons_of_ne_nil hfilled
  exact hseam c hc d rfl ⟨hchar, hinner d List.mem_cons_self⟩

/-! ### Tokens with spaces between them -/

theorem spaced_singleton (t : Token) : spaced [t] = t.spelling := by simp [spaced]

theorem spaced_cons_cons (t u : Token) (us : List Token) :
    spaced (t :: u :: us) = t.spelling ++ ([' '] ++ spaced (u :: us)) := by
  simp [spaced, List.intercalate_cons_cons]

theorem endsBefore_space (t : Token) (s : List Char) : t.EndsBefore ([' '] ++ s) := by
  intro c hc
  obtain rfl : ' ' = c := Option.some.inj hc
  have hspace : ¬isWordChar ' ' := by decide
  cases t <;> simp [hspace]

theorem kinds_tokensFrom_spaced {ts : List Token} (h : ∀ t ∈ ts, t.IsWhole) (o : Nat) :
    kinds (tokensFrom o (spaced ts)) = ts := by
  induction ts using List.twoStepInduction generalizing o with
  | nil =>
    rw [show spaced [] = [] from rfl, tokensFrom]
    rfl
  | singleton t =>
    have hread := tokensFrom_spelling (h t List.mem_cons_self) (s := []) (by simp [Token.EndsBefore]) o
    rw [List.append_nil, tokensFrom] at hread
    rw [spaced_singleton, hread]
    rfl
  | cons_cons t u us _ ih =>
    obtain ⟨hwhole, hrest⟩ := List.forall_mem_cons.mp h
    rw [spaced_cons_cons, tokensFrom_spelling hwhole (endsBefore_space t _), tokensFrom_blank blank_space]
    exact congrArg (t :: ·) (ih u hrest _)

theorem kinds_tokens_spaced {ts : List Token} (h : ∀ t ∈ ts, t.IsWhole) : kinds (tokens (spaced ts)) = ts :=
  kinds_tokensFrom_spaced h 0

/-- A text divides into tokens without a loss: the spellings make up the text without its blanks, each of them stands
where its offset says, and one behind the other; a word is as long as it can be. Any row of signs and of words is what
it is read as, if it is written with single spaces between. -/
theorem tokens_lose_nothing (s : List Char) :
    (kinds (tokens s)).flatMap Token.spelling = s.filter (!Blank.isBlank ·) ∧
      (∀ t p, (t, p) ∈ tokens s → ∃ a b, s = a ++ (t.spelling ++ b) ∧ Find.byteLength a = p) ∧
      (tokens s).Pairwise (·.2 < ·.2) ∧
      (∀ w p, (.word w, p) ∈ tokens s →
        ∃ a b, s = a ++ (w ++ b) ∧ Find.byteLength a = p ∧ IsMaximalWord a w b) ∧
      ∀ ts : List Token, (∀ w, .word w ∈ ts → w ≠ [] ∧ ∀ c ∈ w, isWordChar c) → kinds (tokens (spaced ts)) = ts := by
  have hlexes := lexes_tokens s
  refine ⟨hlexes.flatMap_spelling, fun t p h => ?_, hlexes.pairwise, fun w p h => ?_, fun ts h => ?_⟩
  · obtain ⟨a, b, hs, hp, -⟩ := exists_of_mem_tokens h
    exact ⟨a, b, hs, hp⟩
  · obtain ⟨a, b, hs, hp, hwhole, hends, hseam⟩ := exists_of_mem_tokens h
    exact ⟨a, b, hs, hp, isMaximalWord_of_isSeam hwhole hends hseam⟩
  · refine kinds_tokens_spaced fun t ht => ?_
    cases t with
    | word w => exact h w ht
    | _ => trivial

/-- Two signs that would be read as one if nothing stood between them, and a word of two bytes. -/
def signsApart : List Token := [.eq, .eq, .word ['é'], .comma]

theorem signs_apart_are_read_apart :
    (∀ w, .word w ∈ signsApart → w ≠ [] ∧ ∀ c ∈ w, isWordChar c) ∧
      kinds (tokens "= = é ,".toList) = signsApart ∧
      (.word ['é'], 4) ∈ tokens "= = é ,".toList ∧
      ∃ a b, "= = é ,".toList = a ++ (['é'] ++ b) ∧ Find.byteLength a = 4 ∧ IsMaximalWord a ['é'] b := by
  obtain ⟨-, -, -, hword, hspaced⟩ := tokens_lose_nothing "= = é ,".toList
  have hwords : ∀ w, .word w ∈ signsApart → w ≠ [] ∧ ∀ c ∈ w, isWordChar c := by
    simp only [signsApart, List.mem_cons, reduceCtorEq, Token.word.injEq, List.not_mem_nil, or_false, false_or,
      forall_eq]
    decide
  have hmem : (.word ['é'], 4) ∈ tokens "= = é ,".toList := by decide +kernel
  exact ⟨hwords, hspaced _ hwords, hmem, hword _ _ hmem⟩

end Stencil.Label
