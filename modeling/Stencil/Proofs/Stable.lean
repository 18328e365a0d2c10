import Mathlib.Data.List.Nodup

set_option autoImplicit false
set_option relaxedAutoImplicit false

/-!
Stable sorting. Main statements: sorting by merging is stable; a list has no other stable sort; and elements of
different kinds may stand in any order before they are sorted.
-/

namespace Stencil

variable {α κ : Type} [DecidableEq κ] {le : α → α → Prop} {kind : α → κ} {all all' more more' sorted sorted' : List α}

/-- The same elements in some order, those of each kind among them as they stood. -/
structure Shuffled (kind : α → κ) (all all' : List α) : Prop where
  perm : all'.Perm all
  kinds : ∀ k, all'.filter (kind · = k) = all.filter (kind · = k)

/-- All elements of a list in order, those of each kind among them as they stood. -/
structure StableSort (le : α → α → Prop) (kind : α → κ) (all sorted : List α) : Prop
    extends Shuffled kind all sorted where
  ordered : sorted.Pairwise le

namespace Shuffled

theorem refl (kind : α → κ) (all : List α) : Shuffled kind all all := ⟨.refl _, fun _ => rfl⟩

theorem trans {all'' : List α} (h : Shuffled kind all all') (h' : Shuffled kind all' all'') : Shuffled kind all all'' :=
  ⟨h'.perm.trans h.perm, fun k => (h'.kinds k).trans (h.kinds k)⟩

theorem append (h : Shuffled kind all all') (h' : Shuffled kind more more') :
    Shuffled kind (all ++ more) (all' ++ more') := by
  refine ⟨h.perm.append h'.perm, fun k => ?_⟩
  rw [List.filter_append, List.filter_append, h.kinds, h'.kinds]

theorem filter (h : Shuffled kind all all') (p : α → Bool) : Shuffled kind (all.filter p) (all'.filter p) := by
  refine ⟨h.perm.filter p, fun k => ?_⟩
  rw [List.filter_comm, List.filter_comm _ _ all, h.kinds]

theorem of_perm (hnodup : (all.map kind).Nodup) (hp : all.Perm all') : Shuffled kind all all' := by
  refine ⟨hp.symm, fun k => ?_⟩
  induction hp with
  | nil => rfl
  | cons a _ ih =>
    rw [List.map_cons] at hnodup
    rw [List.filter_cons, List.filter_cons, ih hnodup.of_cons]
  | swap a b l =>
    have hne : kind b ≠ kind a := by
      rw [List.map_cons, List.map_cons] at hnodup
      exact fun h => (List.nodup_cons.mp hnodup).1 (h ▸ List.mem_cons_self)
    by_cases ha : kind a = k
    · have hb : kind b ≠ k := fun h => hne (h.trans ha.symm)
      simp [ha, hb]
    · simp [List.filter_cons, ha]
  | trans h _ ih ih' => exact (ih' ((h.map kind).nodup_iff.mp hnodup)).trans (ih hnodup)

end Shuffled

theorem mergeSort_stableSort (le : α → α → Bool) (htotal : ∀ a b, le a b = true ∨ le b a = true)
    (htrans : ∀ a b c, le a b = true → le b c = true → le a c = true)
    (hkind : ∀ a b, kind a = kind b → le a b = true) (all : List α) :
    StableSort (le · · = true) kind all (all.mergeSort le) := by
  have htotal' : ∀ a b, (le a b || le b a) = true := fun a b => Bool.or_eq_true _ _ ▸ htotal a b
  have hperm := all.mergeSort_perm le
  refine ⟨⟨hperm, fun k => ?_⟩, List.pairwise_mergeSort htrans htotal' all⟩
  have hpairwise : (all.filter (kind · = k)).Pairwise (le · · = true) := by
    refine List.pairwise_of_forall_mem_list fun a ha b hb => hkind a b ?_
    have ha : kind a = k := of_decide_eq_true (List.mem_filter.mp ha).2
    have hb : kind b = k := of_decide_eq_true (List.mem_filter.mp hb).2
    exact ha.trans hb.symm
  have hsub : (all.filter (kind · = k)).Sublist (all.mergeSort le) :=
    List.sublist_mergeSort htrans htotal' hpairwise List.filter_sublist
  -- what is sorted already stays as it is, and the sort has no more of the kind
  have hsub' : (all.filter (kind · = k)).Sublist ((all.mergeSort le).filter (kind · = k)) := by
    have h := hsub.filter (kind · = k)
    rwa [List.filter_filter, funext fun a => Bool.and_self (decide (kind a = k))] at h
  exact (hsub'.eq_of_length (hperm.filter _).length_eq.symm).symm

theorem StableSort.unique (hanti : ∀ a b, le a b → le b a → kind a = kind b) (h : StableSort le kind all sorted)
    (h' : StableSort le kind all sorted') : sorted = sorted' := by
  have hperm : sorted.Perm sorted' := h.perm.trans h'.perm.symm
  have hkinds (k : κ) : sorted.filter (kind · = k) = sorted'.filter (kind · = k) := (h.kinds k).trans (h'.kinds k).symm
  have hordered := h.ordered
  have hordered' := h'.ordered
  clear h h'
  induction sorted generalizing sorted' with
  | nil => exact hperm.nil_eq
  | cons a rest ih =>
    cases sorted' with
    | nil => exact hperm.symm.nil_eq.symm
    | cons b rest' =>
      obtain ⟨hleast, hrest⟩ := List.pairwise_cons.mp hordered
      obtain ⟨hleast', hrest'⟩ := List.pairwise_cons.mp hordered'
      -- each of the two first elements is in the other list, and not in front of its first
      have hkind : kind a = kind b := by
        rcases List.mem_cons.mp (hperm.mem_iff.mp List.mem_cons_self) with rfl | ha
        · rfl
        · rcases List.mem_cons.mp (hperm.mem_iff.mpr List.mem_cons_self) with rfl | hb
          · rfl
          · exact hanti a b (hleast b hb) (hleast' a ha)
      have hsame : a = b := by
        have hk := hkinds (kind b)
        rw [List.filter_cons_of_pos (by simpa using hkind), List.filter_cons_of_pos (by simp)] at hk
        exact (List.cons.inj hk).1
      subst hsame
      refine congrArg (a :: ·) (ih hperm.cons_inv (fun k => ?_) hrest hrest')
      have hk := hkinds k
      rw [List.filter_cons, List.filter_cons] at hk
      split at hk
      · exact (List.cons.inj hk).2
      · exact hk

end Stencil
