import Stencil.Filesystem.Tree
import Stencil.Proofs.Table

set_option autoImplicit false
set_option relaxedAutoImplicit false

/-!
What is at a place after an entry was put somewhere or removed. Main statements: putting an entry changes
its own place and no other, and so does removing one.
-/

namespace Stencil.Filesystem.Tree

open Stencil.Table

theorem get?_of_ne_nil (t : Tree) {p : Place} (hp : p ≠ []) : t.get? p = t.entries.lookup p := by
  cases p with
  | nil => exact absurd rfl hp
  | cons n p => rfl

theorem ne_nil_of_get? {t : Tree} {p : Place} (h : t.get? p ≠ some .directory) : p ≠ [] := by
  rintro rfl
  exact h rfl

theorem mem_entries_of_get? {t : Tree} {p : Place} {e : Entry} (hp : p ≠ []) (h : t.get? p = some e) :
    (p, e) ∈ t.entries := by
  rw [get?_of_ne_nil t hp, List.lookup_eq_some_iff] at h
  obtain ⟨front, back, heq, -⟩ := h
  rw [heq]
  exact List.mem_append_right front List.mem_cons_self

theorem ne_nil_of_free {t : Tree} {p : Place} (h : t.get? p = none) : p ≠ [] :=
  ne_nil_of_get? (by rw [h]; exact nofun)

theorem get?_set_self (t : Tree) {p : Place} (e : Entry) (hp : p ≠ []) :
    (t.set p e).get? p = some e := by
  rw [get?_of_ne_nil _ hp, set]
  split
  · next h =>
    obtain ⟨f, hf⟩ := Option.isSome_iff_exists.mp h
    simp [lookup_replace_self, hf]
  · next h =>
    have hn : t.entries.lookup p = none := Option.not_isSome_iff_eq_none.mp h
    simp [List.lookup_append, hn]

theorem get?_set_ne (t : Tree) {p q : Place} (e : Entry) (h : q ≠ p) :
    (t.set p e).get? q = t.get? q := by
  by_cases hq : q = []
  · subst hq
    rfl
  · rw [get?_of_ne_nil _ hq, get?_of_ne_nil _ hq, set]
    split
    · exact lookup_replace_ne _ e h
    · rw [List.lookup_append, lookup_cons_ne e [] h]
      simp

theorem get?_unlink_self (t : Tree) {p : Place} (hp : p ≠ []) : (t.unlink p).get? p = none := by
  rw [get?_of_ne_nil _ hp, unlink, List.lookup_eq_none_iff]
  intro m hm
  have hne : m.1 ≠ p := by simpa using (List.mem_filter.mp hm).2
  simpa using hne.symm

theorem get?_unlink_ne (t : Tree) {p q : Place} (h : q ≠ p) : (t.unlink p).get? q = t.get? q := by
  by_cases hq : q = []
  · subst hq
    rfl
  · rw [get?_of_ne_nil _ hq, get?_of_ne_nil _ hq, unlink]
    exact lookup_filter_ne _ h

end Stencil.Filesystem.Tree
