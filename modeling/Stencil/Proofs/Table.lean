import Mathlib.Data.List.Basic

set_option autoImplicit false
set_option relaxedAutoImplicit false

/-!
Lists of pairs read as tables. Main statements: where no key occurs twice, a lookup finds what is listed;
replacing what is under a key changes the lookup of that key, where it is there, and of no other.
-/

namespace Stencil.Table

variable {α β : Type} [BEq α] [LawfulBEq α]

theorem lookup_cons_ne {p q : α} (e : β) (entries : List (α × β)) (h : q ≠ p) :
    ((p, e) :: entries).lookup q = entries.lookup q := by
  have hb : (q == p) = false := by simpa using h
  simp only [List.lookup_cons, hb]

theorem lookup_eq_some_iff_mem {entries : List (α × β)} (h : (entries.map Prod.fst).Nodup) (p : α) (e : β) :
    entries.lookup p = some e ↔ (p, e) ∈ entries := by
  induction entries with
  | nil => simp
  | cons m rest ih =>
    obtain ⟨r, f⟩ := m
    obtain ⟨hr, hrest⟩ := List.nodup_cons.mp h
    by_cases hp : p = r
    · subst hp
      have hnot : (p, e) ∉ rest := fun hm => hr (List.mem_map.mpr ⟨(p, e), hm, rfl⟩)
      simp [hnot, eq_comm]
    · rw [lookup_cons_ne f rest hp, ih hrest]
      simp [hp]

variable [DecidableEq α]

theorem lookup_replace_self (entries : List (α × β)) (p : α) (e : β) :
    (entries.map fun m => if m.1 = p then (p, e) else m).lookup p = (entries.lookup p).map fun _ => e := by
  induction entries with
  | nil => rfl
  | cons m rest ih =>
    obtain ⟨r, f⟩ := m
    rw [List.map_cons]
    by_cases hr : r = p
    · subst hr
      simp
    · have hp : p ≠ r := Ne.symm hr
      rw [if_neg hr, lookup_cons_ne f _ hp, lookup_cons_ne f _ hp, ih]

theorem lookup_replace_ne (entries : List (α × β)) {p q : α} (e : β) (h : q ≠ p) :
    (entries.map fun m => if m.1 = p then (p, e) else m).lookup q = entries.lookup q := by
  induction entries with
  | nil => rfl
  | cons m rest ih =>
    obtain ⟨r, f⟩ := m
    rw [List.map_cons]
    by_cases hr : r = p
    · subst hr
      rw [if_pos rfl, lookup_cons_ne e _ h, lookup_cons_ne f _ h, ih]
    · rw [if_neg hr, List.lookup_cons, List.lookup_cons, ih]

theorem lookup_filter_ne (entries : List (α × β)) {p q : α} (h : q ≠ p) :
    (entries.filter fun m => m.1 ≠ p).lookup q = entries.lookup q := by
  induction entries with
  | nil => rfl
  | cons m rest ih =>
    obtain ⟨r, f⟩ := m
    by_cases hr : r = p
    · subst hr
      rw [List.filter_cons_of_neg (by simp), ih, lookup_cons_ne f rest h]
    · rw [List.filter_cons_of_pos (by simpa using hr), List.lookup_cons, List.lookup_cons, ih]

end Stencil.Table
