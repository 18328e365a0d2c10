import Stencil.Proofs.Label.Spelling

set_option autoImplicit false
set_option relaxedAutoImplicit false

/-!
The slots between the parentheses and commas of a value set, each of which holds a value or nothing. Main statement:
every slot stands for a member of the set, the empty value if it is empty, but for the last one, which stands for none
if it is empty.
-/

namespace Stencil.Label

open Stencil.Text

def valueTokens (v : List Char) : List Token := if v = [] then [] else [.word v]

def slots (ms : List (List Char)) : List Token := List.intercalate [.comma] (ms.map valueTokens)

/-- The values in the slots that count: all but an empty one in the last slot. -/
def counted (ms : List (List Char)) : List (List Char) := if ms.getLast? = some [] then ms.dropLast else ms

/-- The tokens of a key, a word behind it and a value set with these slots. -/
def setTokens (key sign : List Char) (ms : List (List Char)) : List Token :=
  .word key :: .word sign :: .opening :: (slots ms ++ [.closing])

/-- A key, a word behind it and a value set with these slots, written with a blank on both sides of the word. -/
def setText (key sign : List Char) (ms : List (List Char)) : List Char :=
  key ++ ' ' :: (sign ++ ' ' :: '(' :: (List.intercalate [','] ms ++ [')']))

variable {k : List Char} {ms : List (List Char)}

/-! ### The members that slots stand for -/

@[simp] theorem valueTokens_nil : valueTokens [] = [] := rfl

theorem valueTokens_of_ne_nil {v : List Char} (h : v ≠ []) : valueTokens v = [.word v] := if_neg h

theorem slots_singleton (m : List Char) : slots [m] = valueTokens m := by simp [slots]

theorem slots_cons_cons (m n : List Char) (ms : List (List Char)) :
    slots (m :: n :: ms) = valueTokens m ++ .comma :: slots (n :: ms) := by
  simp [slots, List.intercalate_cons_cons]

theorem counted_cons_cons (m n : List Char) (ms : List (List Char)) :
    counted (m :: n :: ms) = m :: counted (n :: ms) := by
  simp only [counted, List.getLast?_cons_cons, List.dropLast_cons_cons]
  split <;> rfl

theorem counted_eq_self (h : ∀ m ∈ ms, m ≠ []) : counted ms = ms :=
  if_neg fun hlast => h [] (List.mem_of_getLast? hlast) rfl

theorem isItems_slots (h : ∀ m ∈ ms, IsValue m) : IsItems (slots ms) := by
  induction ms using List.twoStepInduction with
  | nil => exact isItems_nil
  | singleton m =>
    rw [slots_singleton]
    rcases eq_or_ne m [] with rfl | hm
    · exact isItems_nil
    · rw [valueTokens_of_ne_nil hm, isItems_word]
      exact h m List.mem_cons_self
  | cons_cons m n ms _ ih =>
    have hrest := ih n fun v hv => h v (List.mem_cons_of_mem m hv)
    rw [slots_cons_cons]
    rcases eq_or_ne m [] with rfl | hm
    · exact (isItems_comma_cons _).mpr hrest
    · rw [valueTokens_of_ne_nil hm]
      exact (isItems_word_comma_cons m _).mpr ⟨h m List.mem_cons_self, hrest⟩

theorem members_slots (hne : ms ≠ []) : members (slots ms) = (counted ms).map String.ofList := by
  induction ms using List.twoStepInduction with
  | nil => exact absurd rfl hne
  | singleton m =>
    rw [slots_singleton]
    rcases eq_or_ne m [] with rfl | hm
    · rfl
    · rw [valueTokens_of_ne_nil hm, counted_eq_self (by simpa using hm)]
      rfl
  | cons_cons m n ms _ ih =>
    have hrest := ih n (List.cons_ne_nil n ms)
    rw [slots_cons_cons, counted_cons_cons, List.map_cons, ← hrest]
    rcases eq_or_ne m [] with rfl | hm
    · rfl
    · rw [valueTokens_of_ne_nil hm]
      rfl

theorem word_nil_not_mem_valueTokens (v : List Char) : .word [] ∉ valueTokens v := by
  rw [valueTokens]
  split <;> simp [*, eq_comm]

theorem word_nil_not_mem_slots (ms : List (List Char)) : .word [] ∉ slots ms := by
  induction ms using List.twoStepInduction with
  | nil => simp [slots]
  | singleton m => exact slots_singleton m ▸ word_nil_not_mem_valueTokens m
  | cons_cons m n ms _ ih =>
    rw [slots_cons_cons, List.mem_append, List.mem_cons]
    rintro (h | h | h)
    · exact word_nil_not_mem_valueTokens m h
    · cases h
    · exact ih n h

/-! ### The text of a value set -/

theorem spells_slots (ms : List (List Char)) :
    Spells (slots ms ++ [.closing]) (List.intercalate [','] ms ++ [')']) := by
  have hclosing : Spells [.closing] [')'] :=
    .cons (b := []) (by simp) (by simp [Token.IsWord]) (.nil (b := []) (by simp))
  have hvalue (m : List Char) {t : Token} (ht : ¬t.IsWord) {ts : List Token} {s : List Char}
      (h : Spells (t :: ts) s) : Spells (valueTokens m ++ t :: ts) (m ++ s) := by
    rcases eq_or_ne m [] with rfl | hm
    · exact h
    · rw [valueTokens_of_ne_nil hm]
      exact .cons (b := []) (by simp) (fun _ ⟨u, hu, hword⟩ => absurd (Option.some.inj hu ▸ hword) ht) h
  induction ms using List.twoStepInduction with
  | nil => exact hclosing
  | singleton m =>
    rw [slots_singleton, List.intercalate_singleton]
    exact hvalue m id hclosing
  | cons_cons m n ms _ ih =>
    rw [slots_cons_cons, List.intercalate_cons_cons, List.append_assoc, List.append_assoc, List.append_assoc]
    have hcomma := Spells.cons (b := []) (t := .comma) (by simp) (fun hword => hword.elim) (ih n)
    exact hvalue m id hcomma

theorem spells_setText (k sign : List Char) (ms : List (List Char)) :
    Spells (setTokens k sign ms) (setText k sign ms) := by
  have hopening := Spells.cons (t := .opening) blank_space (fun hword => hword.elim) (spells_slots ms)
  have hsign := Spells.cons (t := .word sign) blank_space (fun _ ⟨u, hu, hword⟩ => by cases hu; exact hword.elim)
    hopening
  have hkey := Spells.cons (b := []) (t := .word k) (by simp) (fun _ _ => ⟨' ', by simp, by decide⟩) hsign
  simpa [Token.spelling, setTokens, setText] using hkey

theorem parse_setText {sign : List Char} {c : List String → Condition} (hk : IsKey k) (hne : ms ≠ [])
    (hms : ∀ m ∈ ms, IsValue m) (hsign : sign = "in".toList ∧ c = .oneOf ∨ sign = "notin".toList ∧ c = .noneOf) :
    ∃ selector, Selector.parse (String.ofList (setText k sign ms)) = .ok selector ∧
      selector.requirements = [⟨String.ofList k, c ((counted ms).map String.ofList)⟩] := by
  have hitems := isItems_slots hms
  have hrequirement : WritesRequirement (setTokens k sign ms)
      ⟨String.ofList k, c ((counted ms).map String.ofList)⟩ := by
    rw [← members_slots hne]
    rcases hsign with ⟨rfl, rfl⟩ | ⟨rfl, rfl⟩
    · exact .key hk (.oneOf hitems)
    · exact .key hk (.noneOf hitems)
  have hfilled : .word [] ∉ setTokens k sign ms := by
    have hslots := word_nil_not_mem_slots ms
    rcases hsign with ⟨rfl, -⟩ | ⟨rfl, -⟩ <;> simp [setTokens, hslots, hk.ne_nil.symm]
  apply parse_of_spells (.one hrequirement) hfilled
  rw [String.toList_ofList]
  exact spells_setText k sign ms

/-! ### What a value set asks -/

theorem Condition.holds_oneOf (es : List String) (v : Option String) :
    (Condition.oneOf es).holds v ↔ ∃ e ∈ es, v = some e := by
  cases v <;> simp [Condition.holds]

theorem Condition.holds_noneOf (es : List String) (v : Option String) :
    (Condition.noneOf es).holds v ↔ ¬∃ e ∈ es, v = some e := by
  rw [← Condition.holds_oneOf]
  simp [Condition.holds]

theorem Selector.holds_of_singleton {selector : Selector} {q : Requirement} (h : selector.requirements = [q])
    (labels : Labels) : selector.holds labels = q.condition.holds (labels.lookup q.key) := by
  simp [Selector.holds, h, Requirement.holds]

def Labels.HasOneOf (labels : Labels) (k : List Char) (ms : List (List Char)) : Prop :=
  ∃ m ∈ ms, labels.lookup (String.ofList k) = some (String.ofList m)

theorem hasOneOf_iff (labels : Labels) (k : List Char) (ms : List (List Char)) :
    labels.HasOneOf k ms ↔ ∃ e ∈ ms.map String.ofList, labels.lookup (String.ofList k) = some e := by
  simp [Labels.HasOneOf]

theorem counted_concat (ms : List (List Char)) (m : List Char) :
    counted (ms ++ [m]) = if m = [] then ms else ms ++ [m] := by
  simp [counted]

theorem hasOneOf_counted_iff (h : ms.getLast? = some [] → [] ∈ ms.dropLast) (labels : Labels) (k : List Char) :
    labels.HasOneOf k (counted ms) ↔ labels.HasOneOf k ms := by
  rcases List.eq_nil_or_concat' ms with rfl | ⟨l, m, rfl⟩
  · exact Iff.rfl
  · rw [counted_concat]
    split
    · next hm =>
      subst hm
      have hmem : [] ∈ l := by simpa using h
      constructor
      · rintro ⟨v, hv, hlookup⟩
        exact ⟨v, List.mem_append_left [[]] hv, hlookup⟩
      · rintro ⟨v, hv, hlookup⟩
        rcases List.mem_append.mp hv with hv | hv
        · exact ⟨v, hv, hlookup⟩
        · exact ⟨[], hmem, List.mem_singleton.mp hv ▸ hlookup⟩
    · exact Iff.rfl

/-- A value set of any slots is read, and holds the values in all slots but an empty last one. That is what all the
slots hold exactly if an empty last slot is not the only empty one. -/
theorem set_has_values_in_counted_slots (hk : IsKey k) (hne : ms ≠ []) (hms : ∀ m ∈ ms, IsValue m) :
    ∃ isIn notIn, Selector.parse (String.ofList (setText k "in".toList ms)) = .ok isIn ∧
      Selector.parse (String.ofList (setText k "notin".toList ms)) = .ok notIn ∧
      (∀ labels, (isIn.holds labels ↔ labels.HasOneOf k (counted ms)) ∧
        (notIn.holds labels ↔ ¬labels.HasOneOf k (counted ms))) ∧
      ((∀ labels, isIn.holds labels ↔ labels.HasOneOf k ms) ↔ (ms.getLast? = some [] → [] ∈ ms.dropLast)) := by
  obtain ⟨isIn, hparse, hin⟩ := parse_setText hk hne hms (.inl ⟨rfl, rfl⟩)
  obtain ⟨notIn, hparse', hnot⟩ := parse_setText hk hne hms (.inr ⟨rfl, rfl⟩)
  have hholds (labels : Labels) : isIn.holds labels ↔ labels.HasOneOf k (counted ms) := by
    rw [Selector.holds_of_singleton hin, Condition.holds_oneOf, hasOneOf_iff]
  refine ⟨isIn, notIn, hparse, hparse', fun labels => ⟨hholds labels, ?notIn⟩, fun h hlast => ?missing,
    fun h labels => ?all⟩
  case notIn => rw [Selector.holds_of_singleton hnot, Condition.holds_noneOf, hasOneOf_iff]
  case missing =>
    -- labels with the empty value under the key tell whether some slot that counts is empty
    have hlabels : Labels.HasOneOf [(String.ofList k, "")] k ms :=
      ⟨[], List.mem_of_getLast? hlast, List.lookup_cons_self⟩
    obtain ⟨m, hm, hlookup⟩ := (hholds _).mp ((h _).mpr hlabels)
    rw [List.lookup_cons_self] at hlookup
    obtain rfl : [] = m := String.ofList_injective (Option.some.inj hlookup)
    rwa [counted, if_pos hlast] at hm
  case all => rw [hholds, hasOneOf_counted_iff h]

theorem empty_last_slot_is_no_zone :
    (IsKey "zone".toList ∧ (["a".toList, []] : List (List Char)) ≠ [] ∧ ∀ m ∈ ["a".toList, []], IsValue m) ∧
    ∃ isIn notIn, Selector.parse "zone in (a,)" = .ok isIn ∧ Selector.parse "zone notin (a,)" = .ok notIn ∧
      isIn.holds [("zone", "a")] ∧ ¬isIn.holds [("zone", "")] ∧ notIn.holds [("zone", "")] := by
  have hk : IsKey "zone".toList := (keyError?_eq_none_iff _).mp (by decide)
  have hms : ∀ m ∈ ["a".toList, []], IsValue m := by
    simp only [← valueError?_eq_none_iff]
    decide
  refine ⟨⟨hk, by simp, hms⟩, ?_⟩
  obtain ⟨isIn, notIn, hin, hnot, hholds, -⟩ := set_has_values_in_counted_slots hk (by simp) hms
  refine ⟨isIn, notIn, hin, hnot, (hholds _).1.mpr ?_, mt (hholds _).1.mp ?_, (hholds _).2.mpr ?_⟩
  all_goals simp [Labels.HasOneOf, counted]

/-- Not every slot stands for a member: the set that has no slot but an empty one has no member at all. -/
theorem not_every_slot_is_member :
    ¬∀ (k : List Char) (ms : List (List Char)), IsKey k → ms ≠ [] → (∀ m ∈ ms, IsValue m) →
      ∃ isIn notIn, Selector.parse (String.ofList (setText k "in".toList ms)) = .ok isIn ∧
        Selector.parse (String.ofList (setText k "notin".toList ms)) = .ok notIn ∧
        ∀ labels, (isIn.holds labels ↔ labels.HasOneOf k ms) ∧ (notIn.holds labels ↔ ¬labels.HasOneOf k ms) := by
  intro h
  have hk : IsKey ['k'] := (keyError?_eq_none_iff _).mp (by decide)
  have hms : ∀ m ∈ ([[]] : List (List Char)), IsValue m := by simp [IsValue]
  obtain ⟨isIn, notIn, hin, -, hholds⟩ := h ['k'] [[]] hk (by simp) hms
  obtain ⟨selector, hparse, hrequirements⟩ := parse_setText hk (by simp) hms (.inl ⟨rfl, rfl⟩)
  obtain rfl : isIn = selector := Except.ok.inj (hin.symm.trans hparse)
  have hlabels : Labels.HasOneOf [("k", "")] ['k'] [[]] := ⟨[], by simp, rfl⟩
  have hheld := (hholds [("k", "")]).1.mpr hlabels
  rw [Selector.holds_of_singleton hrequirements, Condition.holds_oneOf] at hheld
  simp [counted] at hheld

end Stencil.Label
