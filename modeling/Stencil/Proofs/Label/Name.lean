import Stencil.Label.Name
import Stencil.Proofs.Text.Find

set_option autoImplicit false
set_option relaxedAutoImplicit false

/-!
Which texts are names, domains, keys and values of labels, told by their form. Main statements: a text has no fault
as a key, or as a value, exactly if it has the form of one.
-/

namespace Stencil.Label

open Stencil.Text

/-- One character of a kind, or two with characters of a wider kind between them. -/
def IsFramed (edge inner : Char → Bool) (s : List Char) : Prop :=
  (∃ a, edge a ∧ s = [a]) ∨ ∃ a m b, edge a ∧ (∀ c ∈ m, inner c) ∧ edge b ∧ s = a :: (m ++ [b])

/-- A name: at most 63 bytes, letters and digits of ASCII at its ends, and between them `-`, `_` and `.` too. -/
def IsName (s : List Char) : Prop :=
  IsFramed Char.isAlphanum (fun c => c.isAlphanum || c == '-' || c == '_' || c == '.') s ∧ Find.byteLength s ≤ 63

/-- A part of a domain: small letters and digits of ASCII at its ends, and between them `-` too. -/
def IsDomainLabel (s : List Char) : Prop :=
  IsFramed (fun c => c.isLower || c.isDigit) (fun c => c.isLower || c.isDigit || c == '-') s

/-- A domain: at most 253 bytes, parts joined by points. -/
def IsDomain (s : List Char) : Prop :=
  (∃ labels, labels ≠ [] ∧ (∀ l ∈ labels, IsDomainLabel l) ∧ s = List.intercalate ['.'] labels) ∧
    Find.byteLength s ≤ 253

def IsKey (s : List Char) : Prop := IsName s ∨ ∃ domain name, IsDomain domain ∧ IsName name ∧ s = domain ++ '/' :: name

def IsValue (s : List Char) : Prop := s = [] ∨ IsName s

theorem isFramed_iff {edge inner : Char → Bool} (h : ∀ c, edge c → inner c) (s : List Char) :
    IsFramed edge inner s ↔ s.head?.any edge ∧ s.getLast?.any edge ∧ s.all inner := by
  constructor
  · rintro (⟨a, ha, rfl⟩ | ⟨a, m, b, ha, hm, hb, rfl⟩)
    · simp [ha, h a ha]
    · simpa [ha, hb, h a ha, h b hb, List.getLast?_cons] using hm
  · rintro ⟨hhead, hlast, hall⟩
    cases s with
    | nil => cases hhead
    | cons a r =>
      rcases List.eq_nil_or_concat' r with rfl | ⟨m, b, rfl⟩
      · exact .inl ⟨a, hhead, rfl⟩
      · refine .inr ⟨a, m, b, hhead, fun c hc => ?_, ?_, rfl⟩
        · exact List.all_eq_true.mp hall c (by simp [hc])
        · simpa [List.getLast?_cons] using hlast

theorem IsFramed.inner_of_mem {edge inner : Char → Bool} (h : ∀ c, edge c → inner c) {s : List Char}
    (hs : IsFramed edge inner s) {c : Char} (hc : c ∈ s) : inner c :=
  List.all_eq_true.mp ((isFramed_iff h s).mp hs).2.2 c hc

theorem isName_iff (s : List Char) : isName s ↔ IsName s := by
  rw [IsName, isFramed_iff (fun c hc => by simp [hc])]
  cases s with
  | nil => simp [isName]
  | cons a r =>
    simp only [isName, List.isEmpty_cons, Bool.not_false, Bool.true_and, Bool.and_eq_true, decide_eq_true_eq, and_assoc]
    constructor
    · rintro ⟨hlength, hhead, hlast, hall⟩
      exact ⟨hhead, hlast, hall, hlength⟩
    · rintro ⟨hhead, hlast, hall, hlength⟩
      exact ⟨hlength, hhead, hlast, hall⟩

theorem isDomainLabel_iff (s : List Char) : isDomainLabel s ↔ IsDomainLabel s := by
  rw [IsDomainLabel, isFramed_iff (fun c hc => by simp_all)]
  -- a character of a part is a letter or digit exactly if it is a small letter or digit
  have hedge : s.all (fun c => c.isLower || c.isDigit || c == '-') → ∀ o : Option Char, (∀ c ∈ o, c ∈ s) →
      o.any Char.isAlphanum = o.any (fun c => c.isLower || c.isDigit) := by
    intro hall o ho
    cases o with
    | none => rfl
    | some c =>
      have hc := List.all_eq_true.mp hall c (ho c rfl)
      simp only [Option.any_some]
      rcases eq_or_ne c '-' with rfl | hne
      · decide
      · have hl : (c.isLower || c.isDigit) = true := by simpa [hne] using hc
        have halphanum : c.isAlphanum = (c.isUpper || (c.isLower || c.isDigit)) := Bool.or_assoc _ _ _
        rw [halphanum, hl, Bool.or_true]
  have hhead := fun h => hedge h s.head? (fun c hc => List.mem_of_mem_head? hc)
  have hlast := fun h => hedge h s.getLast? (fun c hc => List.mem_of_mem_getLast? hc)
  cases s with
  | nil => simp [isDomainLabel]
  | cons a r =>
    simp only [isDomainLabel, List.isEmpty_cons, Bool.not_false, Bool.true_and, Bool.and_eq_true, and_assoc]
    constructor
    · rintro ⟨h, h', hall⟩
      exact ⟨hhead hall ▸ h, hlast hall ▸ h', hall⟩
    · rintro ⟨h, h', hall⟩
      exact ⟨(hhead hall).symm ▸ h, (hlast hall).symm ▸ h', hall⟩

theorem IsDomainLabel.not_mem {s : List Char} (h : IsDomainLabel s) : '.' ∉ s := by
  intro hdot
  have := h.inner_of_mem (fun c hc => by simp_all) hdot
  revert this
  decide

theorem IsDomainLabel.ne_nil {s : List Char} (h : IsDomainLabel s) : s ≠ [] := by
  rintro rfl
  simp [IsDomainLabel, IsFramed] at h

theorem isDomain_iff (s : List Char) : isDomain s ↔ IsDomain s := by
  simp only [isDomain, IsDomain, Bool.and_eq_true, decide_eq_true_eq, Find.splitBy_singleton, List.all_eq_true,
    isDomainLabel_iff, Bool.not_eq_true', List.isEmpty_eq_false_iff]
  constructor
  · rintro ⟨⟨-, hlength⟩, hall⟩
    exact ⟨⟨s.splitOn '.', List.splitOn_ne_nil _ _, hall, (List.intercalate_splitOn '.').symm⟩, hlength⟩
  · rintro ⟨⟨labels, hne, hall, rfl⟩, hlength⟩
    have hsplit : (List.intercalate ['.'] labels).splitOn '.' = labels :=
      List.splitOn_intercalate '.' (fun l hl => (hall l hl).not_mem) hne
    refine ⟨⟨fun hnil => ?_, hlength⟩, hsplit.symm ▸ hall⟩
    rw [hnil, List.splitOn_nil] at hsplit
    exact (hall [] (hsplit ▸ List.mem_singleton_self [])).ne_nil rfl

theorem IsName.slash_not_mem {s : List Char} (h : IsName s) : '/' ∉ s := by
  intro hslash
  have := h.1.inner_of_mem (fun c hc => by simp [hc]) hslash
  revert this
  decide

theorem IsDomain.slash_not_mem {s : List Char} (h : IsDomain s) : '/' ∉ s := by
  obtain ⟨⟨labels, -, hall, rfl⟩, -⟩ := h
  have hlabel : ∀ l ∈ labels, '/' ∉ l := by
    intro l hl hslash
    have := (hall l hl).inner_of_mem (fun c hc => by simp_all) hslash
    revert this
    decide
  clear hall
  induction labels using List.twoStepInduction with
  | nil => simp
  | singleton l => simpa using hlabel l
  | cons_cons l m labels _ ih =>
    rw [List.intercalate_cons_cons]
    have hrest := ih m fun x hx => hlabel x (List.mem_cons_of_mem l hx)
    simp [hlabel l, hrest]

theorem keyError?_eq_none_iff (s : List Char) : keyError? s = none ↔ IsKey s := by
  rw [keyError?]
  cases hcut : Find.cut? ['/'] s with
  | none =>
    have hslash : '/' ∉ s := fun h => (Find.cut?_eq_none_iff _ _).mp hcut ((List.singleton_infix_iff '/' s).mpr h)
    have hkey : IsKey s ↔ IsName s := by
      refine ⟨fun h => h.resolve_right ?_, .inl⟩
      rintro ⟨domain, name, -, -, rfl⟩
      simp at hslash
    rw [hkey, ← isName_iff]
    simp
  | some parts =>
    obtain ⟨domain, name⟩ := parts
    obtain ⟨rfl, hdomain⟩ := (Find.cut?_singleton_eq_some_iff '/' s domain name).mp hcut
    have hkey : IsKey (domain ++ '/' :: name) ↔ IsDomain domain ∧ IsName name := by
      constructor
      · rintro (h | ⟨domain', name', hd, hn, heq⟩)
        · exact absurd (by simp) h.slash_not_mem
        · have hcut' := (Find.cut?_singleton_eq_some_iff '/' _ domain' name').mpr ⟨heq, hd.slash_not_mem⟩
          rw [hcut] at hcut'
          cases hcut'
          exact ⟨hd, hn⟩
      · rintro ⟨hd, hn⟩
        exact .inr ⟨domain, name, hd, hn, rfl⟩
    rw [hkey, ← isDomain_iff, ← isName_iff]
    dsimp only
    cases isDomain domain <;> cases isName name <;> simp

theorem valueError?_eq_none_iff (s : List Char) : valueError? s = none ↔ IsValue s := by
  simp only [valueError?, IsValue, ← isName_iff, Bool.or_eq_true, List.isEmpty_iff]
  split <;> simp_all

end Stencil.Label
