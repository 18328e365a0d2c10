import Mathlib.Order.Bounds.Basic
import Stencil.Proofs.Label.Expectation

set_option autoImplicit false
set_option relaxedAutoImplicit false

/-!
Where the error stands with which a text is refused as a selector. The text is at fault at the first token with which
no selector goes on, or at its end if it only ends too early. Main statement: an error stands at the fault or behind it,
and exactly where it stands.
-/

namespace Stencil.Label

open Stencil.Text

def Breaks (ts : Tokens) (i : Nat) : Prop := i < ts.length ∧ ¬BeginsSelector (kinds (ts.take (i + 1)))

def endOf (ts : Tokens) : Nat := (ts.getLast?.map fun t => t.2 + Find.byteLength t.1.spelling).getD 0

/-- The place at which tokens are at fault: where the first one stands with which no selector goes on, or where the
last one ends if there is no such token. -/
inductive IsPlaceOfFault (ts : Tokens) : Nat → Prop
  | token {i t p} (first : IsLeast {i | Breaks ts i} i) (stands : ts[i]? = some (t, p)) : IsPlaceOfFault ts p
  | ending (unbroken : ∀ i, ¬Breaks ts i) : IsPlaceOfFault ts (endOf ts)

/-- A number of bytes after which no character is cut in two. -/
def IsBoundary (s : List Char) (n : Nat) : Prop := ∃ a b, s = a ++ b ∧ Find.byteLength a = n

variable {s : List Char} {ts us r : Tokens} {t : Token} {i p : Nat}

/-! ### The place of the fault -/

theorem isPlaceOfFault_iff_of_isLeast (hi : IsLeast {i | Breaks ts i} i) (ht : ts[i]? = some (t, p)) (q : Nat) :
    IsPlaceOfFault ts q ↔ q = p := by
  constructor
  · rintro (⟨hj, hu⟩ | hunbroken)
    · obtain rfl := hi.unique hj
      rw [ht] at hu
      cases hu
      rfl
    · exact absurd hi.1 (hunbroken i)
  · rintro rfl
    exact .token hi ht

theorem isPlaceOfFault_iff_of_unbroken (h : ∀ i, ¬Breaks ts i) (q : Nat) : IsPlaceOfFault ts q ↔ q = endOf ts := by
  constructor
  · rintro (⟨hi, -⟩ | -)
    · exact absurd hi.1 (h _)
    · rfl
  · rintro rfl
    exact .ending h

theorem IsPlaceOfFault.mem_or_eq (h : IsPlaceOfFault ts p) : p ∈ ts.map Prod.snd ∨ p = endOf ts := by
  rcases h with ⟨-, ht⟩ | -
  · exact .inl (List.mem_map_of_mem (List.mem_of_getElem? ht))
  · exact .inr rfl

theorem not_breaks {y : Expectation} (hwhole : ∀ t ∈ kinds (us ++ r), t.IsWhole)
    (hleads : Expectation.requirement.after? (kinds us) = some y) (hi : i < us.length) : ¬Breaks (us ++ r) i := by
  rintro ⟨-, hbreaks⟩
  apply hbreaks
  have hprefix : kinds ((us ++ r).take (i + 1)) <+: kinds us := by
    rw [List.take_append_of_le_length hi]
    exact (List.take_prefix _ _).map Prod.fst
  have htake : ∀ t ∈ kinds ((us ++ r).take (i + 1)), t.IsWhole := fun t ht =>
    hwhole t (((List.take_sublist _ _).map Prod.fst).subset ht)
  obtain ⟨rest, hrest⟩ := hprefix
  rw [← hrest, Expectation.after?_append] at hleads
  obtain ⟨x, hx, -⟩ := Option.bind_eq_some_iff.mp hleads
  exact (beginsSelector_iff htake).mpr ⟨x, hx⟩

theorem isLeast_breaks {y : Expectation} (hwhole : ∀ u ∈ kinds (us ++ (t, p) :: r), u.IsWhole)
    (hleads : Expectation.requirement.after? (kinds us) = some y) (hunmet : y.next? t = none) :
    IsLeast {i | Breaks (us ++ (t, p) :: r) i} us.length := by
  refine ⟨⟨by simp, fun hbegins => ?_⟩, fun i hi => ?_⟩
  · have htake : (us ++ (t, p) :: r).take (us.length + 1) = us ++ [(t, p)] := by
      rw [List.take_length_add_append]
      rfl
    have hwhole' : ∀ u ∈ kinds (us ++ [(t, p)]), u.IsWhole := fun u hu => hwhole u (by
      rw [List.append_cons, kinds, List.map_append]
      exact List.mem_append_left _ hu)
    rw [htake] at hbegins
    obtain ⟨z, hz⟩ := (beginsSelector_iff hwhole').mp hbegins
    rw [after?_kinds_append hleads] at hz
    simp [kinds, hunmet] at hz
  · exact Nat.le_of_not_lt fun hlt => not_breaks hwhole hleads hlt hi

/-! ### Boundaries -/

theorem isBoundary_of_mem (h : (t, p) ∈ tokens s) : IsBoundary s p := by
  obtain ⟨a, b, hs, hp, -⟩ := exists_of_mem_tokens h
  exact ⟨a, t.spelling ++ b, hs, hp⟩

/-- One byte behind the beginning of a token is a boundary exactly if its first character has one byte. -/
theorem isBoundary_add_one_iff (h : (t, p) ∈ tokens s) :
    IsBoundary s (p + 1) ↔ ∀ c ∈ t.spelling.head?, c.utf8Size = 1 := by
  obtain ⟨a, b, rfl, rfl, hwhole, -⟩ := exists_of_mem_tokens h
  obtain ⟨c, w, hspelling, -⟩ := exists_spelling_eq_cons hwhole
  rw [hspelling]
  constructor
  · rintro ⟨a', b', heq, hbytes⟩ d hd
    obtain rfl : c = d := Option.some.inj hd
    rcases List.append_eq_append_iff.mp heq with ⟨x, rfl, hx⟩ | ⟨x, rfl, -⟩
    · -- a boundary behind the beginning is one behind the first character
      cases x with
      | nil => simp at hbytes
      | cons d x =>
        obtain rfl : c = d := (List.cons.inj hx).1
        rw [Find.byteLength_append, Find.byteLength_cons] at hbytes
        have hpos := c.utf8Size_pos
        omega
    · rw [Find.byteLength_append] at hbytes
      omega
  · intro hsize
    refine ⟨a ++ [c], w ++ b, by simp, ?_⟩
    rw [Find.byteLength_append, Find.byteLength_cons, hsize c rfl]
    rfl

theorem utf8Size_of_isAlphanum {c : Char} (h : c.isAlphanum) : c.utf8Size = 1 := by
  have hrange := toNat_of_isAlphanum h
  have hval : c.val ≤ 127 := by
    rw [UInt32.le_iff_toNat_le]
    change c.toNat ≤ 127
    omega
  exact Char.utf8Size_eq_one_iff.mpr hval

theorem utf8Size_head_of_isValue {w : List Char} (h : IsValue w) : ∀ c ∈ w.head?, c.utf8Size = 1 := by
  intro c hc
  rcases h with rfl | hname
  · cases hc
  · have hhead := ((isFramed_iff (fun d hd => by simp [hd]) w).mp hname.1).1
    rw [Option.mem_def.mp hc] at hhead
    exact utf8Size_of_isAlphanum hhead

theorem utf8Size_head_of_next? {x y : Expectation} (h : x.next? t = some y) (hy : y.mayEnd = false) :
    ∀ c ∈ t.spelling.head?, c.utf8Size = 1 := by
  cases t with
  | word w =>
    have hword : w = "in".toList ∨ w = "notin".toList ∨ valueError? w = none := by
      cases x with
      | requirement | absentKey | value | bound =>
        obtain ⟨-, hcomplete⟩ := Option.ite_none_right_eq_some.mp h
        cases hcomplete
        cases hy
      | condition =>
        obtain ⟨hw, -⟩ := Option.ite_none_right_eq_some.mp h
        exact hw.imp_right .inl
      | member =>
        obtain ⟨hw, -⟩ := Option.ite_none_right_eq_some.mp h
        exact .inr (.inr hw)
      | opening | separator | comma => cases h
    rcases hword with rfl | rfl | hvalue
    · intro c hc
      cases hc
      rfl
    · intro c hc
      cases hc
      rfl
    · exact utf8Size_head_of_isValue ((valueError?_eq_none_iff w).mp hvalue)
  | _ =>
    intro c hc
    cases hc
    rfl

/-! ### The place of the error -/

theorem endingOf_concat (us : Tokens) (t : Token) (p : Nat) : endingOf (us ++ [(t, p)]) = p + 1 := by
  simp [endingOf]

theorem endOf_concat (us : Tokens) (t : Token) (p : Nat) :
    endOf (us ++ [(t, p)]) = p + Find.byteLength t.spelling := by
  simp [endOf]

/-- Where an error stands that is raised at a token, or behind it. -/
def Refusal.offset (reason : Refusal) (ts : Tokens) (i p : Nat) : Nat :=
  if reason.isLate then (ts[i + 1]?.map Prod.snd).getD (p + 1) else p

theorem offsetOf_endingOf (us r : Tokens) (t : Token) (p : Nat) :
    offsetOf (endingOf (us ++ (t, p) :: r)) r = ((us ++ (t, p) :: r)[us.length + 1]?.map Prod.snd).getD (p + 1) := by
  cases r with
  | nil => simp [offsetOf, endingOf]
  | cons u r => simp [offsetOf]

theorem lt_offset_of_isLate {reason : Refusal} (hts : ts.Pairwise (·.2 < ·.2)) (ht : ts[i]? = some (t, p))
    (hlate : reason.isLate) : p < reason.offset ts i p := by
  rw [Refusal.offset, if_pos hlate]
  cases hnext : ts[i + 1]? with
  | none => exact Nat.lt_succ_self p
  | some u =>
    obtain ⟨hi, hti⟩ := List.getElem?_eq_some_iff.mp ht
    obtain ⟨hj, huj⟩ := List.getElem?_eq_some_iff.mp hnext
    have hlt := List.pairwise_iff_getElem.mp hts i (i + 1) hi hj (Nat.lt_succ_self i)
    rwa [hti, huj] at hlt

/-- An error is raised within a character exactly if it is raised behind the last token, and that begins with a
character of several bytes. -/
theorem isBoundary_offset_iff (reason : Refusal) (ht : (tokens s)[i]? = some (t, p)) :
    IsBoundary s (reason.offset (tokens s) i p) ↔
      (reason.isLate → i + 1 = (tokens s).length → ∀ c ∈ t.spelling.head?, c.utf8Size = 1) := by
  have hmem := List.mem_of_getElem? ht
  obtain ⟨hi, -⟩ := List.getElem?_eq_some_iff.mp ht
  rw [Refusal.offset]
  split
  · next hlate =>
    cases hnext : (tokens s)[i + 1]? with
    | none =>
      have hlast : i + 1 = (tokens s).length := by
        have hle := List.getElem?_eq_none_iff.mp hnext
        omega
      simpa [hlate, hlast] using isBoundary_add_one_iff hmem
    | some u =>
      have hnotlast : i + 1 ≠ (tokens s).length := by
        obtain ⟨hlt, -⟩ := List.getElem?_eq_some_iff.mp hnext
        omega
      simpa [hnotlast] using isBoundary_of_mem (List.mem_of_getElem? hnext)
  · next hlate => simpa [hlate] using isBoundary_of_mem hmem

theorem exists_of_halts {e : SelectorError} (hwhole : ∀ t ∈ kinds ts, t.IsWhole) (hne : ts ≠ [])
    (h : Halts (endingOf ts) .requirement ts e) :
    (∃ i t p, IsLeast {i | Breaks ts i} i ∧ ts[i]? = some (t, p) ∧ e.position = e.reason.offset ts i p) ∨
    (∀ i, ¬Breaks ts i) ∧ ∃ us t p, ts = us ++ [(t, p)] ∧ e.position = p + 1 ∧
      ∀ c ∈ t.spelling.head?, c.utf8Size = 1 := by
  generalize hending : endingOf ts = ending at h
  cases h with
  | @atEnd _ y _ hleads hunfinished hposition =>
    right
    constructor
    · intro i hi
      rw [← List.append_nil ts] at hwhole hi
      exact not_breaks hwhole hleads (by simpa using hi.1) hi
    · obtain hnil | ⟨us, ⟨t, p⟩, rfl⟩ := List.eq_nil_or_concat' ts
      · exact absurd hnil hne
      · rw [kinds, List.map_append, Expectation.after?_append] at hleads
        obtain ⟨x, -, hx⟩ := Option.bind_eq_some_iff.mp hleads
        have hnext : x.next? t = some y := by simpa using hx
        rw [← hending, endingOf_concat] at hposition
        exact ⟨us, t, p, rfl, hposition, utf8Size_head_of_next? hnext hunfinished⟩
  | @atToken us y t p r _ hleads hunmet hposition =>
    left
    refine ⟨us.length, t, p, isLeast_breaks hwhole hleads hunmet, by simp, ?_⟩
    rw [hposition, ← hending, offsetOf_endingOf]
    rfl

/-- A text that is refused breaks at a token, or it ends too early. In the first case the error stands at this token, or
at the next one if it is raised behind it, or else one byte behind the beginning of this one; it is where the fault is
exactly if it is not raised behind it, and within a character exactly if the token is the last one and begins with a
character of several bytes. In the second case the error stands one byte behind the beginning of the last token, and it
is where the fault is exactly if that token has one byte. -/
theorem error_stands_at_fault_or_behind {text : String} {e : SelectorError} (h : Selector.parse text = .error e) :
    let ts := tokens text.toList
    (∃ i t p, IsLeast {i | Breaks ts i} i ∧ ts[i]? = some (t, p) ∧ e.position = e.reason.offset ts i p ∧
      (IsPlaceOfFault ts e.position ↔ e.reason.isLate = false) ∧
      (IsBoundary text.toList e.position ↔
        (e.reason.isLate → i + 1 = ts.length → ∀ c ∈ t.spelling.head?, c.utf8Size = 1))) ∨
    (∀ i, ¬Breaks ts i) ∧ ∃ t p, ts.getLast? = some (t, p) ∧ e.position = p + 1 ∧
      (IsPlaceOfFault ts e.position ↔ Find.byteLength t.spelling = 1) ∧ IsBoundary text.toList e.position := by
  intro ts
  have hlexes : Lexes 0 text.toList ts := lexes_tokens text.toList
  have hread := (parse_eq_error_iff text e).mp h
  have hne : ts ≠ [] := by
    intro hnil
    rw [show tokens text.toList = [] from hnil] at hread
    cases hread
  rcases exists_of_halts hlexes.isWhole hne (halts_of_requirementsOf hread) with
    ⟨i, t, p, hleast, ht, hposition⟩ | ⟨hunbroken, us, t, p, hts, hposition, hsize⟩
  · refine .inl ⟨i, t, p, hleast, ht, hposition, ?_, ?_⟩
    · rw [isPlaceOfFault_iff_of_isLeast hleast ht, hposition]
      cases hlate : e.reason.isLate with
      | false => simp [Refusal.offset, hlate]
      | true =>
        have hlt := lt_offset_of_isLate hlexes.pairwise ht hlate
        simp [hlt.ne']
    · rw [hposition]
      exact isBoundary_offset_iff e.reason ht
  · have hmem : (t, p) ∈ ts := by simp [hts]
    refine .inr ⟨hunbroken, t, p, by simp [hts], hposition, ?_, ?_⟩
    · rw [isPlaceOfFault_iff_of_unbroken hunbroken, hposition, hts, endOf_concat]
      omega
    · rw [hposition]
      exact (isBoundary_add_one_iff hmem).mpr hsize

theorem error_behind_word_in_place_of_set :
    Selector.parse "app in a,b" = .error ⟨.openingExpected, 8⟩ ∧ ¬IsPlaceOfFault (tokens "app in a,b".toList) 8 := by
  have hparse : Selector.parse "app in a,b" = .error ⟨.openingExpected, 8⟩ := by decide +kernel
  refine ⟨hparse, ?_⟩
  rcases error_stands_at_fault_or_behind hparse with ⟨i, t, p, -, -, -, hplace, -⟩ | ⟨-, t, p, hlast, hposition, -⟩
  · exact fun h => absurd (hplace.mp h) (by decide)
  · have hword : (tokens "app in a,b".toList).getLast? = some (.word ['b'], 9) := by decide +kernel
    rw [hword] at hlast
    cases hlast
    cases hposition

/-- Not every error stands where the fault is, nor between two characters. -/
theorem error_need_not_stand_at_fault :
    ¬∀ (text : String) (e : SelectorError), Selector.parse text = .error e →
      IsPlaceOfFault (tokens text.toList) e.position ∧ IsBoundary text.toList e.position := by
  intro h
  have hparse : Selector.parse "k=é" = .error ⟨.name (.value "é"), 3⟩ := by decide +kernel
  have hoffsets : 3 ∉ (tokens "k=é".toList).map Prod.snd := by decide +kernel
  have hend : 3 ≠ endOf (tokens "k=é".toList) := by decide +kernel
  exact (h _ _ hparse).1.mem_or_eq.elim hoffsets hend

end Stencil.Label
