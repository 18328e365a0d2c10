import Stencil.Proofs.Label.Slots

set_option autoImplicit false
set_option relaxedAutoImplicit false

/-!
What selectors ask of labels. Main statement: requirements that are written with any blanks around their tokens, and
with commas between them, are read as a selector that holds of labels exactly if every requirement asks what the labels
give, so that their order makes no difference.
-/

namespace Stencil.Label

open Stencil.Text Stencil.Decimal

/-- What a condition asks of the value under its key. -/
def Condition.Asks : Condition → Option String → Prop
  | .present, v => ∃ s, v = some s
  | .absent, v => ¬∃ s, v = some s
  | .equals e, v => v = some e
  | .differs e, v => ¬v = some e
  | .oneOf es, v => ∃ e ∈ es, v = some e
  | .noneOf es, v => ¬∃ e ∈ es, v = some e
  | .above b, v => ∃ s n, v = some s ∧ Writes .signed64 s.toList n ∧ b < n
  | .below b, v => ∃ s n, v = some s ∧ Writes .signed64 s.toList n ∧ n < b

def Requirement.Asks (q : Requirement) (labels : Labels) : Prop := q.condition.Asks (labels.lookup q.key)

/-- Tokens say a condition: a value is a name or nothing, a bound an integer, and a set has members, all of them
names. -/
inductive SaysCondition : List Token → Condition → Prop
  | present : SaysCondition [] .present
  | equals {t v} (sign : t = .eq ∨ t = .doubleEq) (value : IsValue v) :
      SaysCondition (t :: valueTokens v) (.equals (String.ofList v))
  | differs {v} (value : IsValue v) : SaysCondition (.notEq :: valueTokens v) (.differs (String.ofList v))
  | above {w n} (bound : Writes .signed64 w n) : SaysCondition [.gt, .word w] (.above n)
  | below {w n} (bound : Writes .signed64 w n) : SaysCondition [.lt, .word w] (.below n)
  | oneOf {vs} (filled : vs ≠ []) (names : ∀ v ∈ vs, IsName v) :
      SaysCondition (.word "in".toList :: .opening :: (slots vs ++ [.closing])) (.oneOf (vs.map String.ofList))
  | noneOf {vs} (filled : vs ≠ []) (names : ∀ v ∈ vs, IsName v) :
      SaysCondition (.word "notin".toList :: .opening :: (slots vs ++ [.closing])) (.noneOf (vs.map String.ofList))

inductive SaysRequirement : List Token → Requirement → Prop
  | absent {w} (key : IsKey w) : SaysRequirement [.bang, .word w] ⟨String.ofList w, .absent⟩
  | key {w ts c} (key : IsKey w) (condition : SaysCondition ts c) :
      SaysRequirement (.word w :: ts) ⟨String.ofList w, c⟩

/-- Tokens say requirements one by one, with commas between them. -/
def SaysAll (ts : List Token) (qs : List Requirement) : Prop :=
  ∃ parts, List.Forall₂ SaysRequirement parts qs ∧ ts = List.intercalate [.comma] parts

/-! ### What is said is derived by the grammar -/

theorem writesValue_valueTokens {v : List Char} (h : IsValue v) : WritesValue (valueTokens v) (String.ofList v) := by
  rcases eq_or_ne v [] with rfl | hv
  · exact .empty
  · rw [valueTokens_of_ne_nil hv]
    exact .word h

theorem members_slots_of_names {vs : List (List Char)} (hne : vs ≠ []) (h : ∀ v ∈ vs, IsName v) :
    members (slots vs) = vs.map String.ofList := by
  rw [members_slots hne, counted_eq_self fun v hv => (h v hv).ne_nil]

theorem SaysCondition.writes {ts : List Token} {c : Condition} (h : SaysCondition ts c) : WritesCondition ts c := by
  cases h with
  | present => exact .present
  | equals hsign hv => exact .equals hsign (writesValue_valueTokens hv)
  | differs hv => exact .differs (writesValue_valueTokens hv)
  | above hn => exact .above hn
  | below hn => exact .below hn
  | oneOf hne hnames =>
    rw [← members_slots_of_names hne hnames]
    exact .oneOf (isItems_slots fun v hv => .inr (hnames v hv))
  | noneOf hne hnames =>
    rw [← members_slots_of_names hne hnames]
    exact .noneOf (isItems_slots fun v hv => .inr (hnames v hv))

theorem ne_nil_of_writes {w : List Char} {n : Int} (h : Writes .signed64 w n) : w ≠ [] := by
  obtain ⟨⟨digits, hne, -, hw⟩, -⟩ := h
  rcases hw with ⟨rfl, -⟩ | ⟨rfl, -⟩ | ⟨rfl, -⟩
  · exact hne
  all_goals exact List.cons_ne_nil _ _

theorem SaysCondition.word_nil_not_mem {ts : List Token} {c : Condition} (h : SaysCondition ts c) : .word [] ∉ ts := by
  cases h with
  | present => simp
  | @equals t v hsign _ => rcases hsign with rfl | rfl <;> simpa using word_nil_not_mem_valueTokens v
  | @differs v _ => simpa using word_nil_not_mem_valueTokens v
  | above hn | below hn => simpa using (ne_nil_of_writes hn).symm
  | @oneOf vs _ _ | @noneOf vs _ _ => simpa using word_nil_not_mem_slots vs

theorem SaysRequirement.writes {ts : List Token} {q : Requirement} (h : SaysRequirement ts q) :
    WritesRequirement ts q := by
  cases h with
  | absent hw => exact .absent hw
  | key hw hc => exact .key hw hc.writes

theorem SaysRequirement.word_nil_not_mem {ts : List Token} {q : Requirement} (h : SaysRequirement ts q) :
    .word [] ∉ ts := by
  cases h with
  | absent hw => simpa using hw.ne_nil.symm
  | key hw hc => simpa [hw.ne_nil.symm] using hc.word_nil_not_mem

theorem SaysAll.writesRow {ts : List Token} {qs : List Requirement} (h : SaysAll ts qs) (hne : qs ≠ []) :
    WritesRow ts qs ∧ .word [] ∉ ts := by
  obtain ⟨parts, hparts, rfl⟩ := h
  induction hparts with
  | nil => exact absurd rfl hne
  | @cons part q parts qs hq hqs ih =>
    cases hqs with
    | nil =>
      rw [List.intercalate_singleton]
      exact ⟨.one hq.writes, hq.word_nil_not_mem⟩
    | @cons part' q' parts qs hq' hqs =>
      obtain ⟨hrow, hfilled⟩ := ih (List.cons_ne_nil q' qs)
      rw [List.intercalate_cons_cons, List.append_assoc]
      refine ⟨.more hq.writes hrow, ?_⟩
      simpa [hq.word_nil_not_mem] using hfilled

/-! ### What requirements hold of -/

theorem Condition.holds_iff_asks (c : Condition) (v : Option String) : c.holds v ↔ c.Asks v := by
  have hnumber (p : Int → Bool) : (v.bind fun s => signed64? s.toList).any p ↔
      ∃ s n, v = some s ∧ Writes .signed64 s.toList n ∧ p n := by
    simp only [Option.any_eq_true, Option.bind_eq_some_iff, signed64?, bounded?_eq_some_iff]
    constructor
    · rintro ⟨n, ⟨s, hs, hn⟩, hp⟩
      exact ⟨s, n, hs, hn, hp⟩
    · rintro ⟨s, n, hs, hn, hp⟩
      exact ⟨n, ⟨s, hs, hn⟩, hp⟩
  cases c with
  | present => simp [Condition.holds, Asks, Option.isSome_iff_exists]
  | absent => simp [Condition.holds, Asks, Option.eq_none_iff_forall_ne_some]
  | equals e => simp [Condition.holds, Asks]
  | differs e => simp [Condition.holds, Asks]
  | oneOf es => exact holds_oneOf es v
  | noneOf es => exact holds_noneOf es v
  | above b => simpa [Condition.holds, Asks] using hnumber fun n => b < n
  | below b => simpa [Condition.holds, Asks] using hnumber fun n => n < b

theorem Selector.holds_iff (selector : Selector) (labels : Labels) :
    selector.holds labels ↔ ∀ q ∈ selector.requirements, q.Asks labels := by
  simp only [Selector.holds, List.all_eq_true, Requirement.holds, Condition.holds_iff_asks, Requirement.Asks]

theorem exists_selector_of_says {qs : List Requirement} (hne : qs ≠ []) {ts : List Token} {s : String}
    (htold : SaysAll ts qs) (hs : Spells ts s.toList) :
    ∃ selector, Selector.parse s = .ok selector ∧ ∀ labels, selector.holds labels ↔ ∀ q ∈ qs, q.Asks labels := by
  obtain ⟨hrow, hfilled⟩ := htold.writesRow hne
  obtain ⟨selector, hparse, hrequirements⟩ := parse_of_spells hrow hfilled hs
  exact ⟨selector, hparse, fun labels => hrequirements ▸ selector.holds_iff labels⟩

/-- Requirements that are written with commas between them, and with any blanks around their tokens, are read as a
selector that holds of labels exactly if each of them asks what the labels give. In another order, however it is
written, they hold of the same labels. -/
theorem written_requirements_hold_iff_asked {qs : List Requirement} (hne : qs ≠ []) {ts : List Token} {s : String}
    (htold : SaysAll ts qs) (hs : Spells ts s.toList) :
    ∃ selector, Selector.parse s = .ok selector ∧
      (∀ labels, selector.holds labels ↔ ∀ q ∈ qs, q.Asks labels) ∧
      ∀ (qs' : List Requirement) (ts' : List Token) (s' : String), qs'.Perm qs → SaysAll ts' qs' →
        Spells ts' s'.toList → ∃ selector', Selector.parse s' = .ok selector' ∧
          ∀ labels, selector'.holds labels = selector.holds labels := by
  obtain ⟨selector, hparse, hholds⟩ := exists_selector_of_says hne htold hs
  refine ⟨selector, hparse, hholds, fun qs' ts' s' hperm htold' hs' => ?_⟩
  have hne' : qs' ≠ [] := by
    rintro rfl
    exact hne (List.nil_perm.mp hperm)
  obtain ⟨selector', hparse', hholds'⟩ := exists_selector_of_says hne' htold' hs'
  refine ⟨selector', hparse', fun labels => ?_⟩
  rw [Bool.eq_iff_iff, hholds', hholds]
  constructor
  · exact fun h q hq => h q (hperm.mem_iff.mpr hq)
  · exact fun h q hq => h q (hperm.mem_iff.mp hq)

def mixedTokens : List Token :=
  [.bang, .word ['a'], .comma, .word ['b'], .word "in".toList, .opening, .word ['c'], .closing]

def mixedRequirements : List Requirement := [⟨"a", .absent⟩, ⟨"b", .oneOf ["c"]⟩]

theorem mixed_requirements_hold :
    (mixedRequirements ≠ [] ∧ SaysAll mixedTokens mixedRequirements ∧
      Spells mixedTokens " !a , b in(c )".toList) ∧
    ∃ selector, Selector.parse " !a , b in(c )" = .ok selector ∧
      selector.holds [("b", "c")] ∧ ¬selector.holds [("a", ""), ("b", "c")] := by
  have hname (c : Char) (h : isName [c]) : IsName [c] := (isName_iff [c]).mp h
  have htold : SaysAll mixedTokens mixedRequirements := by
    refine ⟨[[.bang, .word ['a']], [.word ['b'], .word "in".toList, .opening, .word ['c'], .closing]], ?_, rfl⟩
    have habsent := SaysRequirement.absent (w := ['a']) (.inl (hname _ (by decide)))
    have hset : SaysCondition [.word "in".toList, .opening, .word ['c'], .closing] (.oneOf ["c"]) :=
      .oneOf (List.cons_ne_nil ['c'] []) (by simp [hname 'c' (by decide)])
    have hkey : IsKey ['b'] := .inl (hname _ (by decide))
    exact .cons habsent (.cons (.key hkey hset) .nil)
  have hs : Spells mixedTokens " !a , b in(c )".toList := by
    refine .cons blank_space (by simp [Token.IsWord]) ?_
    refine .cons (b := []) (by simp) (by simp [Token.IsWord]) ?_
    refine .cons blank_space (by simp [Token.IsWord]) ?_
    refine .cons blank_space (fun _ _ => ⟨' ', rfl, by decide⟩) ?_
    refine .cons blank_space (by simp [Token.IsWord]) ?_
    refine .cons (b := []) (by simp) (by simp [Token.IsWord]) ?_
    refine .cons (b := []) (by simp) (by simp [Token.IsWord]) ?_
    exact .cons blank_space (by simp [Token.IsWord]) (.nil (b := []) (by simp))
  refine ⟨⟨by simp [mixedRequirements], htold, hs⟩, ?_⟩
  obtain ⟨selector, hparse, hholds, -⟩ := written_requirements_hold_iff_asked (by simp [mixedRequirements]) htold hs
  refine ⟨selector, hparse, (hholds _).mpr ?_, mt (hholds _).mp ?_⟩
  · simp only [mixedRequirements, Requirement.Asks, ← Condition.holds_iff_asks]
    decide
  · simp only [mixedRequirements, Requirement.Asks, ← Condition.holds_iff_asks]
    decide

end Stencil.Label
