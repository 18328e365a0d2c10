import Mathlib.Data.List.Chain
import Stencil.Proofs.Label.Grammar

set_option autoImplicit false
set_option relaxedAutoImplicit false

/-!
Texts that spell tokens, with blanks around them. Main statements: a text that spells tokens has these tokens, if no
sign is written where it is read together with the next one; and a text that spells tokens of the grammar is read as
the grammar says.
-/

namespace Stencil.Label

open Stencil.Text Stencil.Decimal

def Token.IsWord : Token → Prop
  | .word _ => True
  | _ => False

/-- A text spells tokens: blanks may stand around every token, and one has to stand between two words. -/
inductive Spells : List Token → List Char → Prop
  | nil {b} (blank : ∀ c ∈ b, Blank.isBlank c) : Spells [] b
  | cons {b t ts s} (blank : ∀ c ∈ b, Blank.isBlank c)
      (apart : t.IsWord → (∃ u ∈ ts.head?, u.IsWord) → ∃ c ∈ s.head?, Blank.isBlank c) (rest : Spells ts s) :
      Spells (t :: ts) (b ++ (t.spelling ++ s))

def Token.IsWhole : Token → Prop
  | .word w => w ≠ [] ∧ ∀ c ∈ w, isWordChar c
  | _ => True

/-- The first token is a sign that is read together with the second one, if nothing stands between them. -/
def Token.Fuses : Token → Token → Prop
  | .eq, .eq | .eq, .doubleEq | .bang, .eq | .bang, .doubleEq => True
  | _, _ => False

def KeepsSigns (ts : List Token) : Prop := ts.IsChain fun t u => ¬t.Fuses u

/-- The text behind a token does not belong to it. -/
def Token.EndsBefore (t : Token) (s : List Char) : Prop :=
  ∀ c ∈ s.head?, match t with
    | .word _ => ¬isWordChar c
    | .eq | .bang => c ≠ '='
    | _ => True

/-! ### One token -/

theorem blank_space : ∀ c ∈ [' '], Blank.isBlank c := List.forall_mem_singleton.mpr rfl

theorem isWordChar_iff (c : Char) : isWordChar c ↔ ¬Blank.isBlank c ∧ special? c = none := by
  simp [isWordChar]

theorem exists_spelling_eq_cons {t : Token} (h : t.IsWhole) :
    ∃ c r, t.spelling = c :: r ∧ ¬Blank.isBlank c ∧ (isWordChar c → t.IsWord) ∧
      (c = '=' → t = .eq ∨ t = .doubleEq) := by
  cases t with
  | word w =>
    obtain ⟨hne, hchars⟩ := h
    obtain ⟨c, r, rfl⟩ := List.exists_cons_of_ne_nil hne
    have hc := (isWordChar_iff c).mp (hchars c List.mem_cons_self)
    refine ⟨c, r, rfl, hc.1, fun _ => trivial, ?_⟩
    rintro rfl
    exact absurd hc.2 (by decide)
  | _ => exact ⟨_, _, rfl, by decide, fun h => absurd h (by decide), by decide⟩

theorem firstToken_spelling {t : Token} {c : Char} {r s : List Char} (h : t.IsWhole) (hspelling : t.spelling = c :: r)
    (hend : t.EndsBefore s) : firstToken c (r ++ s) = (t, s) := by
  cases t with
  | word w =>
    obtain rfl : w = c :: r := hspelling
    have hchar := (isWordChar_iff c).mp (h.2 c List.mem_cons_self)
    have hrest : ∀ d ∈ r, isWordChar d := fun d hd => h.2 d (List.mem_cons_of_mem c hd)
    have htake : (r ++ s).takeWhile isWordChar = r := by
      rw [List.takeWhile_append_of_pos hrest]
      cases s with
      | nil => simp
      | cons d s => rw [List.takeWhile_cons_of_neg (hend d rfl), List.append_nil]
    have hdrop : (r ++ s).dropWhile isWordChar = s := by
      rw [List.dropWhile_append_of_pos hrest]
      cases s with
      | nil => rfl
      | cons d s => exact List.dropWhile_cons_of_neg (hend d rfl)
    unfold firstToken
    split
    · exact absurd hchar.2 (by decide)
    · exact absurd hchar.2 (by decide)
    · rw [hchar.2, htake, hdrop]
  | doubleEq | notEq =>
    cases hspelling
    rfl
  | eq | bang =>
    cases hspelling
    cases s with
    | nil => rfl
    | cons d s =>
      have hd : d ≠ '=' := hend d rfl
      unfold firstToken
      split <;> simp_all [special?]
  | _ =>
    cases hspelling
    rfl

theorem tokensFrom_spelling {t : Token} {s : List Char} (h : t.IsWhole) (hend : t.EndsBefore s) (offset : Nat) :
    tokensFrom offset (t.spelling ++ s) = (t, offset) :: tokensFrom (offset + Find.byteLength t.spelling) s := by
  obtain ⟨c, r, hspelling, hblank, -, -⟩ := exists_spelling_eq_cons h
  have hfirst := firstToken_spelling h hspelling hend
  rw [hspelling, List.cons_append, tokensFrom, if_neg hblank, hfirst, ← hspelling]

theorem tokensFrom_blank {b : List Char} (hb : ∀ c ∈ b, Blank.isBlank c) (offset : Nat) (s : List Char) :
    tokensFrom offset (b ++ s) = tokensFrom (offset + Find.byteLength b) s := by
  induction b generalizing offset with
  | nil => simp
  | cons c b ih =>
    have hrest : ∀ d ∈ b, Blank.isBlank d := fun d hd => hb d (List.mem_cons_of_mem c hd)
    rw [List.cons_append, tokensFrom, if_pos (hb c List.mem_cons_self), ih hrest, Find.byteLength_cons, Nat.add_assoc]

/-! ### Rows of tokens -/

theorem Spells.head {ts : List Token} {s : List Char} (h : Spells ts s) (hwhole : ∀ t ∈ ts, t.IsWhole) {c : Char}
    (hc : c ∈ s.head?) :
    Blank.isBlank c ∨ ∃ u ∈ ts.head?, (isWordChar c → u.IsWord) ∧ (c = '=' → u = .eq ∨ u = .doubleEq) := by
  cases h with
  | nil hb => exact .inl (hb c (List.mem_of_mem_head? hc))
  | @cons b t ts s hb _ _ =>
    cases b with
    | cons d b =>
      obtain rfl : d = c := Option.some.inj hc
      exact .inl (hb d List.mem_cons_self)
    | nil =>
      obtain ⟨d, r, hspelling, -, hword, hequal⟩ := exists_spelling_eq_cons (hwhole t List.mem_cons_self)
      rw [List.nil_append, hspelling] at hc
      obtain rfl : d = c := Option.some.inj hc
      exact .inr ⟨t, rfl, hword, hequal⟩

theorem Spells.endsBefore {t : Token} {ts : List Token} {s : List Char} (h : Spells ts s)
    (hwhole : ∀ u ∈ ts, u.IsWhole) (hsigns : ∀ u ∈ ts.head?, ¬t.Fuses u)
    (hapart : t.IsWord → (∃ u ∈ ts.head?, u.IsWord) → ∃ c ∈ s.head?, Blank.isBlank c) : t.EndsBefore s := by
  intro c hc
  have hhead := h.head hwhole hc
  cases t with
  | word w =>
    intro hchar
    have hblank : Blank.isBlank c := by
      rcases hhead with hblank | ⟨u, hu, hword, -⟩
      · exact hblank
      · obtain ⟨d, hd, hblank⟩ := hapart trivial ⟨u, hu, hword hchar⟩
        rwa [← Option.some.inj (hd.symm.trans hc)]
    exact ((isWordChar_iff c).mp hchar).1 hblank
  | eq | bang =>
    rintro rfl
    rcases hhead with hblank | ⟨u, hu, -, hequal⟩
    · exact absurd hblank (by decide)
    · apply hsigns u hu
      rcases hequal rfl with rfl | rfl <;> trivial
  | _ => trivial

theorem kinds_tokensFrom_of_spells {ts : List Token} {s : List Char} (h : Spells ts s) (hwhole : ∀ t ∈ ts, t.IsWhole)
    (hsigns : KeepsSigns ts) (offset : Nat) : kinds (tokensFrom offset s) = ts := by
  induction h generalizing offset with
  | @nil b hb =>
    have hblank := tokensFrom_blank hb offset []
    rw [List.append_nil, tokensFrom] at hblank
    rw [hblank]
    rfl
  | @cons b t ts s hb hapart hrest ih =>
    have hrestWhole : ∀ u ∈ ts, u.IsWhole := fun u hu => hwhole u (List.mem_cons_of_mem t hu)
    obtain ⟨hnext, hrestSigns⟩ := List.isChain_cons.mp hsigns
    -- what stands behind the token begins with a blank, or with a token that is neither a word nor fuses with it
    have hend := hrest.endsBefore hrestWhole hnext hapart
    rw [tokensFrom_blank hb, tokensFrom_spelling (hwhole t List.mem_cons_self) hend]
    exact congrArg (t :: ·) (ih hrestWhole hrestSigns _)

theorem kinds_tokens_of_spells {ts : List Token} {s : List Char} (h : Spells ts s) (hwhole : ∀ t ∈ ts, t.IsWhole)
    (hsigns : KeepsSigns ts) : kinds (tokens s) = ts :=
  kinds_tokensFrom_of_spells h hwhole hsigns 0

/-! ### Rows of the grammar -/

theorem toNat_of_isAlphanum {c : Char} (h : c.isAlphanum) :
    (48 ≤ c.toNat ∧ c.toNat ≤ 57) ∨ (65 ≤ c.toNat ∧ c.toNat ≤ 90) ∨ (97 ≤ c.toNat ∧ c.toNat ≤ 122) := by
  change (decide (c.val ≥ 'A'.val ∧ c.val ≤ 'Z'.val) || decide (c.val ≥ 'a'.val) && decide (c.val ≤ 'z'.val) ||
    decide (c.val ≥ '0'.val) && decide (c.val ≤ '9'.val)) = true at h
  simp only [Bool.or_eq_true, Bool.and_eq_true, decide_eq_true_eq, ge_iff_le, UInt32.le_iff_toNat_le] at h
  rcases h with (h | h) | h
  · exact .inr (.inl h)
  · exact .inr (.inr h)
  · exact .inl h

theorem isWordChar_of_isAlphanum {c : Char} (h : c.isAlphanum) : isWordChar c := by
  refine (isWordChar_iff c).mpr ⟨fun hblank => ?_, ?_⟩
  · have hrange := toNat_of_isAlphanum h
    simp only [Blank.isBlank, Blank.ranges, CharRanges.contains_cons, CharRanges.contains_nil, Bool.or_eq_true,
      Bool.and_eq_true, decide_eq_true_eq, Bool.or_false] at hblank
    omega
  · unfold special?
    split <;> first | rfl | exact absurd h (by decide)

theorem mem_of_mem_intercalate {labels : List (List Char)} {c : Char} (h : c ∈ List.intercalate ['.'] labels) :
    c = '.' ∨ ∃ l ∈ labels, c ∈ l := by
  induction labels using List.twoStepInduction with
  | nil => simp at h
  | singleton l => exact .inr ⟨l, List.mem_singleton_self l, by simpa using h⟩
  | cons_cons l m labels _ ih =>
    rw [List.intercalate_cons_cons, List.append_assoc, List.mem_append, List.mem_append, List.mem_singleton] at h
    rcases h with h | h | h
    · exact .inr ⟨l, List.mem_cons_self, h⟩
    · exact .inl h
    · rcases ih m h with h | ⟨k, hk, hc⟩
      · exact .inl h
      · exact .inr ⟨k, List.mem_cons_of_mem l hk, hc⟩

theorem isWordChar_of_isName {w : List Char} (h : IsName w) {c : Char} (hc : c ∈ w) : isWordChar c := by
  have hinner := h.1.inner_of_mem (fun d hd => by simp [hd]) hc
  simp only [Bool.or_eq_true, beq_iff_eq, or_assoc] at hinner
  rcases hinner with hletter | rfl | rfl | rfl
  · exact isWordChar_of_isAlphanum hletter
  all_goals decide

theorem isWordChar_of_isDomain {w : List Char} (h : IsDomain w) {c : Char} (hc : c ∈ w) : isWordChar c := by
  obtain ⟨⟨labels, -, hlabels, rfl⟩, -⟩ := h
  rcases mem_of_mem_intercalate hc with rfl | ⟨l, hl, hc⟩
  · decide
  · have hinner := (hlabels l hl).inner_of_mem (fun d hd => by simp_all) hc
    simp only [Bool.or_eq_true, beq_iff_eq] at hinner
    rcases hinner with hletter | rfl
    · apply isWordChar_of_isAlphanum
      change (c.isUpper || c.isLower || c.isDigit) = true
      rcases hletter with hlower | hdigit
      · rw [hlower, Bool.or_true, Bool.true_or]
      · rw [hdigit, Bool.or_true]
    · decide

theorem isWordChar_of_isKey {w : List Char} (h : IsKey w) {c : Char} (hc : c ∈ w) : isWordChar c := by
  rcases h with hw | ⟨domain, name, hdomain, hname, rfl⟩
  · exact isWordChar_of_isName hw hc
  · rcases List.mem_append.mp hc with hc | hc
    · exact isWordChar_of_isDomain hdomain hc
    · rcases List.mem_cons.mp hc with rfl | hc
      · decide
      · exact isWordChar_of_isName hname hc

theorem isWordChar_of_isValue {w : List Char} (h : IsValue w) {c : Char} (hc : c ∈ w) : isWordChar c := by
  rcases h with rfl | hname
  · cases hc
  · exact isWordChar_of_isName hname hc

theorem isWordChar_of_writes {w : List Char} {n : Int} (h : Writes .signed64 w n) {c : Char} (hc : c ∈ w) :
    isWordChar c := by
  obtain ⟨⟨digits, -, hdigits, hw⟩, -⟩ := h
  have hdigit {d : Char} (hd : d ∈ digits) : isWordChar d :=
    isWordChar_of_isAlphanum (by simp [Char.isAlphanum, hdigits d hd])
  rcases hw with ⟨rfl, -⟩ | ⟨rfl, -⟩ | ⟨rfl, -⟩
  · exact hdigit hc
  all_goals
    rcases List.mem_cons.mp hc with rfl | hc
    · decide
    · exact hdigit hc

theorem IsName.ne_nil {w : List Char} (h : IsName w) : w ≠ [] := by
  rintro rfl
  simp [IsName, IsFramed] at h

theorem IsKey.ne_nil {w : List Char} (h : IsKey w) : w ≠ [] := by
  rcases h with h | ⟨domain, name, -, -, rfl⟩
  · exact h.ne_nil
  · simp

def HasWords (ts : List Token) : Prop := ∀ w, .word w ∈ ts → ∀ c ∈ w, isWordChar c

theorem WritesValue.hasWords {ts : List Token} {v : String} (h : WritesValue ts v) : HasWords ts := by
  cases h with
  | empty => simp [HasWords]
  | word hw => simpa [HasWords] using fun c hc => isWordChar_of_isValue hw hc

theorem IsItems.hasWords {ts : List Token} (h : IsItems ts) : HasWords ts := by
  intro w hw c hc
  rcases h.1 _ hw with hcomma | ⟨v, hv, hvalue⟩
  · cases hcomma
  · cases hv
    exact isWordChar_of_isValue hvalue hc

theorem WritesCondition.hasWords {ts : List Token} {c : Condition} (h : WritesCondition ts c) : HasWords ts := by
  cases h with
  | present => simp [HasWords]
  | equals hsign hv => rcases hsign with rfl | rfl <;> simpa [HasWords] using hv.hasWords
  | differs hv => simpa [HasWords] using hv.hasWords
  | above hn | below hn => simpa [HasWords] using fun c hc => isWordChar_of_writes hn hc
  | oneOf hitems | noneOf hitems =>
    intro w hw
    simp only [List.mem_cons, List.mem_append, Token.word.injEq, reduceCtorEq, false_or, or_false,
      List.not_mem_nil] at hw
    rcases hw with rfl | hw
    · exact List.all_eq_true.mp (by decide)
    · exact hitems.hasWords w hw

theorem WritesRequirement.hasWords {ts : List Token} {q : Requirement} (h : WritesRequirement ts q) : HasWords ts := by
  cases h with
  | absent hw => simpa [HasWords] using fun c hc => isWordChar_of_isKey hw hc
  | key hw hc =>
    intro w hmem
    rcases List.mem_cons.mp hmem with hkey | hmem
    · cases hkey
      exact fun c hc => isWordChar_of_isKey hw hc
    · exact hc.hasWords w hmem

theorem WritesRow.hasWords {ts : List Token} {qs : List Requirement} (h : WritesRow ts qs) : HasWords ts := by
  induction h with
  | one hq => exact hq.hasWords
  | more hq _ ih =>
    intro w hw
    simp only [List.mem_append, List.mem_cons, reduceCtorEq, false_or] at hw
    exact hw.elim (hq.hasWords w) (ih w)

theorem keepsSigns_of_forall {ts : List Token} (h : ∀ t ∈ ts, t ≠ .eq ∧ t ≠ .bang) : KeepsSigns ts := by
  induction ts with
  | nil => exact .nil
  | cons t ts ih =>
    refine List.isChain_cons.mpr ⟨fun u _ => ?_, ih fun u hu => h u (List.mem_cons_of_mem t hu)⟩
    obtain ⟨heq, hbang⟩ := h t List.mem_cons_self
    cases t <;> simp_all [Token.Fuses]

theorem WritesCondition.keepsSigns {ts : List Token} {c : Condition} (h : WritesCondition ts c) : KeepsSigns ts := by
  cases h with
  | present => exact .nil
  | equals hsign hv =>
    cases hv with
    | empty => exact .singleton _
    | word _ => rcases hsign with rfl | rfl <;> simp [KeepsSigns, Token.Fuses]
  | differs hv =>
    cases hv with
    | empty => exact .singleton _
    | word _ => simp [KeepsSigns, Token.Fuses]
  | above _ | below _ => simp [KeepsSigns, Token.Fuses]
  | oneOf hitems | noneOf hitems =>
    apply keepsSigns_of_forall
    intro t ht
    simp only [List.mem_cons, List.mem_append, List.not_mem_nil, or_false] at ht
    rcases ht with rfl | rfl | ht | rfl
    · simp
    · simp
    · rcases hitems.1 t ht with rfl | ⟨w, rfl, -⟩ <;> simp
    · simp

theorem WritesRequirement.keepsSigns {ts : List Token} {q : Requirement} (h : WritesRequirement ts q) :
    KeepsSigns ts := by
  cases h with
  | absent _ => simp [KeepsSigns, Token.Fuses]
  | key _ hc => exact hc.keepsSigns.cons fun u _ => by simp [Token.Fuses]

theorem WritesRow.keepsSigns {ts : List Token} {qs : List Requirement} (h : WritesRow ts qs) : KeepsSigns ts := by
  induction h with
  | one hq => exact hq.keepsSigns
  | more hq _ ih =>
    refine hq.keepsSigns.append (ih.cons fun u _ => by simp [Token.Fuses]) fun t _ u hu => ?_
    obtain rfl : .comma = u := Option.some.inj hu
    cases t <;> simp [Token.Fuses]

/-- A text that spells tokens of the grammar, none of them an empty word, is read as the requirements that the grammar
derives from them. -/
theorem parse_of_spells {ts : List Token} {qs : List Requirement} {s : String} (h : WritesRow ts qs)
    (hfilled : .word [] ∉ ts) (hs : Spells ts s.toList) :
    ∃ selector, Selector.parse s = .ok selector ∧ selector.requirements = qs := by
  have hwhole : ∀ t ∈ ts, t.IsWhole := by
    intro t ht
    cases t with
    | word w => exact ⟨fun hw => hfilled (hw ▸ ht), h.hasWords w ht⟩
    | _ => trivial
  have hkinds := kinds_tokens_of_spells hs hwhole h.keepsSigns
  have hread := (requirementsOf_eq_ok_iff (tokens s.toList) qs).mpr (.inr (by rwa [hkinds]))
  refine ⟨⟨String.ofList (Blank.trim s.toList), qs⟩, ?_, rfl⟩
  rw [Selector.parse, hread]
  rfl

end Stencil.Label
