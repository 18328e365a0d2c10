import Stencil.Label.Selector
import Stencil.Proofs.Decimal.Integer
import Stencil.Proofs.Label.Name

set_option autoImplicit false
set_option relaxedAutoImplicit false

/-!
Which rows of tokens are selectors. The grammar says which tokens write a value, a value set, a condition, a
requirement and a selector, and what they stand for. Main statement: a selector is read from a text exactly if the
grammar derives it from the tokens of the text.
-/

namespace Stencil.Label

open Stencil.Text Stencil.Decimal

/-! ### The grammar -/

/-- Tokens that write a value: one word that is a value, or nothing. -/
inductive WritesValue : List Token → String → Prop
  | empty : WritesValue [] ""
  | word {w} (value : IsValue w) : WritesValue [.word w] (String.ofList w)

/-- The items of a value set: values and commas, no two values side by side. -/
def IsItems (ts : List Token) : Prop :=
  (∀ t ∈ ts, t = .comma ∨ ∃ w, t = .word w ∧ IsValue w) ∧ ts.IsChain fun a b => a = .comma ∨ b = .comma

/-- The members that items stand for: every value, and an empty one for every comma that ends no value. -/
def members : List Token → List String
  | [] => []
  | .word w :: .comma :: ts => String.ofList w :: members ts
  | .word w :: ts => String.ofList w :: members ts
  | _ :: ts => "" :: members ts

/-- Tokens that write what is said about a key. -/
inductive WritesCondition : List Token → Condition → Prop
  | present : WritesCondition [] .present
  | equals {t ts v} (sign : t = .eq ∨ t = .doubleEq) (value : WritesValue ts v) : WritesCondition (t :: ts) (.equals v)
  | differs {ts v} (value : WritesValue ts v) : WritesCondition (.notEq :: ts) (.differs v)
  | above {w n} (bound : Writes .signed64 w n) : WritesCondition [.gt, .word w] (.above n)
  | below {w n} (bound : Writes .signed64 w n) : WritesCondition [.lt, .word w] (.below n)
  | oneOf {ts} (items : IsItems ts) :
      WritesCondition (.word "in".toList :: .opening :: (ts ++ [.closing])) (.oneOf (members ts))
  | noneOf {ts} (items : IsItems ts) :
      WritesCondition (.word "notin".toList :: .opening :: (ts ++ [.closing])) (.noneOf (members ts))

inductive WritesRequirement : List Token → Requirement → Prop
  | absent {w} (key : IsKey w) : WritesRequirement [.bang, .word w] ⟨String.ofList w, .absent⟩
  | key {w ts c} (key : IsKey w) (condition : WritesCondition ts c) :
      WritesRequirement (.word w :: ts) ⟨String.ofList w, c⟩

/-- Tokens that write requirements, at least one, with commas between them. -/
inductive WritesRow : List Token → List Requirement → Prop
  | one {ts q} (requirement : WritesRequirement ts q) : WritesRow ts [q]
  | more {ts us q qs} (requirement : WritesRequirement ts q) (rest : WritesRow us qs) :
      WritesRow (ts ++ .comma :: us) (q :: qs)

/-- Tokens that write a selector: a row of requirements or nothing. -/
def WritesSelector (ts : List Token) (qs : List Requirement) : Prop := ts = [] ∧ qs = [] ∨ WritesRow ts qs

/-! ### Items -/

@[simp] theorem isItems_nil : IsItems [] := by simp [IsItems]

@[simp] theorem isItems_comma_cons (ts : List Token) : IsItems (.comma :: ts) ↔ IsItems ts := by
  cases ts <;> simp [IsItems]

@[simp] theorem isItems_word (w : List Char) : IsItems [.word w] ↔ IsValue w := by simp [IsItems]

@[simp] theorem isItems_word_comma_cons (w : List Char) (ts : List Token) :
    IsItems (.word w :: .comma :: ts) ↔ IsValue w ∧ IsItems ts := by
  cases ts <;> simp [IsItems, and_assoc]

/-! ### What the readers accept is derived -/

def kinds (ts : Tokens) : List Token := ts.map Prod.fst

variable {ending : Nat} {ts r : Tokens}

theorem of_map {α β : Type} {f : α → β} {x : Except SelectorError (α × Tokens)} {b : β}
    (h : x.map (fun v => (f v.1, v.2)) = .ok (b, r)) : ∃ a, x = .ok (a, r) ∧ f a = b := by
  cases x with
  | error e => cases h
  | ok v =>
    cases h
    exact ⟨v.1, rfl, rfl⟩

theorem of_readKey {k : String} (h : readKey ending ts = .ok (k, r)) :
    ∃ w p, ts = (.word w, p) :: r ∧ IsKey w ∧ k = String.ofList w := by
  unfold readKey at h
  split at h
  · next w p r' =>
    split at h
    · next hw =>
      cases h
      exact ⟨w, p, rfl, (keyError?_eq_none_iff w).mp hw, rfl⟩
    · cases h
  · cases h

theorem of_readValue {v : String} (h : readValue ending ts = .ok (v, r)) :
    ∃ used, ts = used ++ r ∧ WritesValue (kinds used) v := by
  unfold readValue at h
  split at h
  · cases h
    exact ⟨[], rfl, .empty⟩
  · cases h
    exact ⟨[], rfl, .empty⟩
  · next w p r' =>
    split at h
    · next hw =>
      cases h
      exact ⟨[(.word w, p)], rfl, .word ((valueError?_eq_none_iff w).mp hw)⟩
    · cases h
  · cases h

theorem of_readInteger {n : Int} (h : readInteger ending ts = .ok (n, r)) :
    ∃ w p, ts = (.word w, p) :: r ∧ Writes .signed64 w n := by
  unfold readInteger at h
  split at h
  · next w p r' =>
    split at h
    · next hw =>
      cases h
      exact ⟨w, p, rfl, (bounded?_eq_some_iff .signed64 w n).mp hw⟩
    · cases h
  · cases h

theorem of_readMembers {ms : List String} (h : readMembers ending ts = .ok (ms, r)) :
    ∃ items p, ts = items ++ (.closing, p) :: r ∧ IsItems (kinds items) ∧ ms = members (kinds items) := by
  fun_induction readMembers ending ts generalizing ms r with
  | case1 p r' =>
    cases h
    exact ⟨[], p, rfl, isItems_nil, rfl⟩
  | case2 p r' ih =>
    obtain ⟨ms', h', rfl⟩ := of_map h
    obtain ⟨items, q, rfl, hitems, rfl⟩ := ih h'
    exact ⟨(.comma, p) :: items, q, rfl, (isItems_comma_cons _).mpr hitems, rfl⟩
  | case3 => cases h
  | case4 w p hw q r' ih =>
    obtain ⟨ms', h', rfl⟩ := of_map h
    obtain ⟨items, q', rfl, hitems, rfl⟩ := ih h'
    exact ⟨(.word w, p) :: (.comma, q) :: items, q', rfl,
      (isItems_word_comma_cons w _).mpr ⟨(valueError?_eq_none_iff w).mp hw, hitems⟩, rfl⟩
  | case5 w p hw q r' =>
    cases h
    exact ⟨[(.word w, p)], q, rfl, (isItems_word w).mpr ((valueError?_eq_none_iff w).mp hw), rfl⟩
  | case6 => cases h
  | case7 => cases h

theorem of_readSet {ms : List String} (h : readSet ending ts = .ok (ms, r)) :
    ∃ p items q, ts = (.opening, p) :: (items ++ (.closing, q) :: r) ∧ IsItems (kinds items) ∧
      ms = members (kinds items) := by
  unfold readSet at h
  split at h
  · next p r' =>
    obtain ⟨items, q, rfl, hitems⟩ := of_readMembers h
    exact ⟨p, items, q, rfl, hitems⟩
  · cases h

theorem of_readCondition {key : String} {c : Condition} (h : readCondition key ending ts = .ok (c, r)) :
    ∃ used, ts = used ++ r ∧ WritesCondition (kinds used) c := by
  unfold readCondition at h
  split at h
  · cases h
    exact ⟨[], rfl, .present⟩
  · next t p r' =>
    split at h
    · cases h
      exact ⟨[], rfl, .present⟩
    · obtain ⟨v, h', rfl⟩ := of_map h
      obtain ⟨used, rfl, hused⟩ := of_readValue h'
      exact ⟨(.eq, p) :: used, rfl, .equals (.inl rfl) hused⟩
    · obtain ⟨v, h', rfl⟩ := of_map h
      obtain ⟨used, rfl, hused⟩ := of_readValue h'
      exact ⟨(.doubleEq, p) :: used, rfl, .equals (.inr rfl) hused⟩
    · obtain ⟨v, h', rfl⟩ := of_map h
      obtain ⟨used, rfl, hused⟩ := of_readValue h'
      exact ⟨(.notEq, p) :: used, rfl, .differs hused⟩
    · obtain ⟨n, h', rfl⟩ := of_map h
      obtain ⟨w, q, rfl, hw⟩ := of_readInteger h'
      exact ⟨[(.gt, p), (.word w, q)], rfl, .above hw⟩
    · obtain ⟨n, h', rfl⟩ := of_map h
      obtain ⟨w, q, rfl, hw⟩ := of_readInteger h'
      exact ⟨[(.lt, p), (.word w, q)], rfl, .below hw⟩
    · next w =>
      split at h
      · next hw =>
        subst hw
        obtain ⟨ms, h', rfl⟩ := of_map h
        obtain ⟨q, items, q', rfl, hitems, rfl⟩ := of_readSet h'
        exact ⟨(.word ['i', 'n'], p) :: (.opening, q) :: (items ++ [(.closing, q')]), by simp,
          by simpa [kinds] using WritesCondition.oneOf hitems⟩
      · split at h
        · next hw =>
          subst hw
          obtain ⟨ms, h', rfl⟩ := of_map h
          obtain ⟨q, items, q', rfl, hitems, rfl⟩ := of_readSet h'
          exact ⟨(.word ['n', 'o', 't', 'i', 'n'], p) :: (.opening, q) :: (items ++ [(.closing, q')]), by simp,
            by simpa [kinds] using WritesCondition.noneOf hitems⟩
        · cases h
    · cases h

theorem of_readRequirement {q : Requirement} (h : readRequirement ending ts = .ok (q, r)) :
    ∃ used, ts = used ++ r ∧ WritesRequirement (kinds used) q := by
  unfold readRequirement at h
  split at h
  · next p r' =>
    obtain ⟨k, h', rfl⟩ := of_map (f := fun k => Requirement.mk k .absent) h
    obtain ⟨w, p', rfl, hw, rfl⟩ := of_readKey h'
    exact ⟨[(.bang, p), (.word w, p')], rfl, .absent hw⟩
  · split at h
    · cases h
    · next k r' hk =>
      obtain ⟨c, h', rfl⟩ := of_map h
      obtain ⟨w, p, rfl, hw, rfl⟩ := of_readKey hk
      obtain ⟨used, rfl, hused⟩ := of_readCondition h'
      exact ⟨(.word w, p) :: used, rfl, .key hw hused⟩

theorem of_readRequirements {n : Nat} {qs : List Requirement} (h : readRequirements ending n ts = .ok qs) :
    WritesRow (kinds ts) qs := by
  fun_induction readRequirements ending n ts generalizing qs with
  | case1 => cases h
  | case2 => cases h
  | case3 n ts q hq =>
    cases h
    obtain ⟨used, rfl, hused⟩ := of_readRequirement hq
    rw [List.append_nil]
    exact .one hused
  | case4 => cases h
  | case5 n ts q p r hr hq ih =>
    obtain ⟨used, rfl, hused⟩ := of_readRequirement hq
    cases hqs : readRequirements ending n r with
    | error e =>
      rw [hqs] at h
      cases h
    | ok qs' =>
      rw [hqs] at h
      cases h
      simpa [kinds] using WritesRow.more hused (ih hqs)
  | case6 => cases h

/-! ### What is derived the readers accept -/

def Stops (ts : Tokens) : Prop := ∀ t ∈ ts.head?, t.1 = .comma

theorem readKey_of_isKey {w : List Char} (p : Nat) (h : IsKey w) :
    readKey ending ((.word w, p) :: r) = .ok (String.ofList w, r) := by
  simp [readKey, (keyError?_eq_none_iff w).mpr h]

theorem kinds_eq_cons_iff {t : Token} {us : List Token} :
    kinds ts = t :: us ↔ ∃ p ts', ts = (t, p) :: ts' ∧ kinds ts' = us := by
  cases ts with
  | nil => simp [kinds]
  | cons u ts => obtain ⟨t', p⟩ := u; simp [kinds, Prod.ext_iff]

theorem kinds_eq_nil_iff : kinds ts = [] ↔ ts = [] := List.map_eq_nil_iff

theorem kinds_eq_singleton_iff {t : Token} : kinds ts = [t] ↔ ∃ p, ts = [(t, p)] := by
  simp [kinds_eq_cons_iff, kinds_eq_nil_iff]

theorem exists_set_of_kinds_eq {us : List Token} (h : kinds ts = .opening :: (us ++ [.closing])) :
    ∃ p items q, ts = (.opening, p) :: (items ++ [(.closing, q)]) ∧ kinds items = us := by
  obtain ⟨p, rest, rfl, hrest⟩ := kinds_eq_cons_iff.mp h
  obtain ⟨items, last, rfl, hitems, hlast⟩ := List.map_eq_append_iff.mp hrest
  obtain ⟨q, rfl⟩ := kinds_eq_singleton_iff.mp hlast
  exact ⟨p, items, q, rfl, hitems⟩

theorem readValue_of_writesValue {v : String} (h : WritesValue (kinds ts) v) (hr : Stops r) :
    readValue ending (ts ++ r) = .ok (v, r) := by
  generalize hts : kinds ts = us at h
  cases h with
  | empty =>
    obtain rfl := kinds_eq_nil_iff.mp hts
    rcases r with - | ⟨⟨t, p⟩, r⟩
    · rfl
    · obtain rfl : t = .comma := hr (t, p) rfl
      rfl
  | @word w hw =>
    obtain ⟨p, rfl⟩ := kinds_eq_singleton_iff.mp hts
    simp [readValue, (valueError?_eq_none_iff w).mpr hw]

theorem readInteger_of_writes {w : List Char} {n : Int} (p : Nat) (h : Writes .signed64 w n) :
    readInteger ending ((.word w, p) :: r) = .ok (n, r) := by
  simp [readInteger, signed64?, (bounded?_eq_some_iff .signed64 w n).mpr h]

theorem readMembers_of_isItems (p : Nat) (h : IsItems (kinds ts)) :
    readMembers ending (ts ++ (.closing, p) :: r) = .ok (members (kinds ts), r) := by
  generalize hts : kinds ts = us at h ⊢
  fun_induction members us generalizing ts with
  | case1 =>
    obtain rfl := kinds_eq_nil_iff.mp hts
    rfl
  | case2 w us ih =>
    obtain ⟨q, rest, rfl, hrest⟩ := kinds_eq_cons_iff.mp hts
    obtain ⟨q', rest, rfl, hrest'⟩ := kinds_eq_cons_iff.mp hrest
    obtain ⟨hw, hus⟩ := (isItems_word_comma_cons w us).mp h
    simp [readMembers, (valueError?_eq_none_iff w).mpr hw, ih hrest' hus, Except.map]
  | case3 w us hus ih =>
    -- a value that no comma ends is the last of the items
    obtain rfl : us = [] := by
      cases us with
      | nil => rfl
      | cons u us =>
        have hcomma : u = .comma := by simpa [IsItems] using (List.isChain_cons_cons.mp h.2).1
        exact absurd (hcomma ▸ rfl) (hus us)
    obtain ⟨q, rest, rfl, hrest⟩ := kinds_eq_cons_iff.mp hts
    obtain rfl := kinds_eq_nil_iff.mp hrest
    simp [readMembers, (valueError?_eq_none_iff w).mpr ((isItems_word w).mp h), members]
  | case4 t us _ hword ih =>
    obtain rfl : t = .comma := (h.1 t (by simp)).resolve_right fun ⟨w, hw, _⟩ => hword w hw
    obtain ⟨q, rest, rfl, hrest⟩ := kinds_eq_cons_iff.mp hts
    simp [readMembers, ih hrest ((isItems_comma_cons us).mp h), Except.map]

theorem readSet_of_isItems (p q : Nat) (h : IsItems (kinds ts)) :
    readSet ending ((.opening, p) :: (ts ++ (.closing, q) :: r)) = .ok (members (kinds ts), r) :=
  readMembers_of_isItems q h

theorem readCondition_of_writesCondition {key : String} {c : Condition} (h : WritesCondition (kinds ts) c)
    (hr : Stops r) : readCondition key ending (ts ++ r) = .ok (c, r) := by
  generalize hts : kinds ts = us at h
  cases h with
  | present =>
    obtain rfl := kinds_eq_nil_iff.mp hts
    rcases r with - | ⟨⟨t, p⟩, r⟩
    · rfl
    · obtain rfl : t = .comma := hr (t, p) rfl
      rfl
  | @equals t us v ht hv =>
    obtain ⟨p, rest, rfl, rfl⟩ := kinds_eq_cons_iff.mp hts
    have hread : readValue ending (rest ++ r) = .ok (v, r) := readValue_of_writesValue hv hr
    rcases ht with rfl | rfl <;> simp [readCondition, hread, Except.map]
  | @differs us v hv =>
    obtain ⟨p, rest, rfl, rfl⟩ := kinds_eq_cons_iff.mp hts
    simp [readCondition, readValue_of_writesValue hv hr, Except.map]
  | @above w n hn =>
    obtain ⟨p, rest, rfl, hrest⟩ := kinds_eq_cons_iff.mp hts
    obtain ⟨q, rfl⟩ := kinds_eq_singleton_iff.mp hrest
    simp [readCondition, readInteger_of_writes q hn, Except.map]
  | @below w n hn =>
    obtain ⟨p, rest, rfl, hrest⟩ := kinds_eq_cons_iff.mp hts
    obtain ⟨q, rfl⟩ := kinds_eq_singleton_iff.mp hrest
    simp [readCondition, readInteger_of_writes q hn, Except.map]
  | @oneOf us hus =>
    obtain ⟨p, rest, rfl, hrest⟩ := kinds_eq_cons_iff.mp hts
    obtain ⟨p', items, q, rfl, rfl⟩ := exists_set_of_kinds_eq hrest
    simp [readCondition, readSet_of_isItems p' q hus, Except.map]
  | @noneOf us hus =>
    obtain ⟨p, rest, rfl, hrest⟩ := kinds_eq_cons_iff.mp hts
    obtain ⟨p', items, q, rfl, rfl⟩ := exists_set_of_kinds_eq hrest
    simp [readCondition, readSet_of_isItems p' q hus, Except.map]

theorem readRequirement_of_writesRequirement {q : Requirement} (h : WritesRequirement (kinds ts) q) (hr : Stops r) :
    readRequirement ending (ts ++ r) = .ok (q, r) := by
  generalize hts : kinds ts = us at h
  cases h with
  | @absent w hw =>
    obtain ⟨p, rest, rfl, hrest⟩ := kinds_eq_cons_iff.mp hts
    obtain ⟨p', rfl⟩ := kinds_eq_singleton_iff.mp hrest
    simp [readRequirement, readKey_of_isKey p' hw, Except.map]
  | @key w us c hw hc =>
    obtain ⟨p, rest, rfl, rfl⟩ := kinds_eq_cons_iff.mp hts
    simp [readRequirement, readKey_of_isKey p hw, readCondition_of_writesCondition hc hr, Except.map]

theorem WritesRequirement.ne_nil {us : List Token} {q : Requirement} (h : WritesRequirement us q) : us ≠ [] := by
  cases h <;> simp

theorem WritesRow.ne_nil {us : List Token} {qs : List Requirement} (h : WritesRow us qs) : us ≠ [] := by
  cases h with
  | one hq => exact hq.ne_nil
  | more hq _ => simp

theorem readRequirements_of_writesRow {n : Nat} {qs : List Requirement} (h : WritesRow (kinds ts) qs)
    (hn : ts.length ≤ n) : readRequirements ending n ts = .ok qs := by
  generalize hts : kinds ts = us at h
  induction h generalizing n ts with
  | @one us q hq =>
    subst hts
    have hread : readRequirement ending (ts ++ []) = .ok (q, []) :=
      readRequirement_of_writesRequirement hq (by simp [Stops])
    rw [List.append_nil] at hread
    cases n with
    | zero => exact absurd (List.map_eq_nil_iff.mpr (List.length_eq_zero_iff.mp (Nat.le_zero.mp hn))) hq.ne_nil
    | succ n => simp [readRequirements, hread]
  | @more us vs q qs hq hqs ih =>
    obtain ⟨used, rest, rfl, rfl, hrest⟩ := List.map_eq_append_iff.mp hts
    obtain ⟨p, rest, rfl, rfl⟩ := kinds_eq_cons_iff.mp hrest
    have hread : readRequirement ending (used ++ (.comma, p) :: rest) = .ok (q, (.comma, p) :: rest) :=
      readRequirement_of_writesRequirement hq (by simp [Stops])
    cases n with
    | zero => simp at hn
    | succ n =>
      have hlength : rest.length ≤ n := by
        simp only [List.length_append, List.length_cons] at hn
        omega
      cases rest with
      | nil => exact absurd rfl hqs.ne_nil
      | cons t rest => simp [readRequirements, hread, ih hlength rfl, Except.map]

theorem requirementsOf_eq_ok_iff (ts : Tokens) (qs : List Requirement) :
    requirementsOf ts = .ok qs ↔ WritesSelector (kinds ts) qs := by
  unfold requirementsOf WritesSelector
  cases ts with
  | nil =>
    have hrow : ¬WritesRow [] qs := fun h => h.ne_nil rfl
    simp [kinds, hrow, eq_comm]
  | cons t ts =>
    simp only [List.isEmpty_cons, Bool.false_eq_true, if_false]
    constructor
    · exact fun h => .inr (of_readRequirements h)
    · rintro (⟨h, -⟩ | h)
      · cases h
      · exact readRequirements_of_writesRow h le_rfl

/-- A selector is read from a text exactly if the grammar derives it from the tokens of the text. The words `in` and
`notin` are keys and values like others. -/
theorem parse_eq_ok_iff (s : String) (selector : Selector) :
    (Selector.parse s = .ok selector ↔
      selector.text = String.ofList (Blank.trim s.toList) ∧
        WritesSelector (kinds (tokens s.toList)) selector.requirements) ∧
    ∀ w ∈ ["in".toList, "notin".toList], IsKey w ∧ IsValue w := by
  constructor
  · rw [← requirementsOf_eq_ok_iff, Selector.parse]
    obtain ⟨text, qs⟩ := selector
    cases requirementsOf (tokens s.toList) with
    | error e => simp [Except.map]
    | ok qs' => simp [Except.map, eq_comm]
  · simp only [← keyError?_eq_none_iff, ← valueError?_eq_none_iff]
    decide

end Stencil.Label
