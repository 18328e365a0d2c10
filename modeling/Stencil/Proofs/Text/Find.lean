import Mathlib.Data.List.Infix
import Mathlib.Logic.Basic
import Stencil.Text.Find

set_option autoImplicit false
set_option relaxedAutoImplicit false

/-!
Where a text is found in another one. Main statements: nothing is found exactly if the text does not occur, a text is
cut at the first of the places where it could be, whatever stands behind it, and a text is split at a character as a
list is.
-/

namespace Stencil.Text.Find

theorem after?_eq_some_iff (needle s r : List Char) : after? needle s = some r ↔ s = needle ++ r := by
  constructor
  · exact eq_append_of_after?
  · rintro rfl
    exact after?_append needle r

theorem cut?_eq_none_iff (needle s : List Char) : cut? needle s = none ↔ ¬needle <:+: s := by
  induction s with
  | nil =>
    rw [cut?, Option.map_eq_none_iff, Option.eq_none_iff_forall_ne_some]
    simp [after?_eq_some_iff]
  | cons c s ih =>
    rw [List.infix_cons_iff, not_or, ← ih, cut?]
    cases ha : after? needle (c :: s) with
    | some r =>
      have hfront : needle <+: c :: s := ⟨r, ((after?_eq_some_iff _ _ _).mp ha).symm⟩
      simp [hfront]
    | none =>
      have hfront : ¬needle <+: c :: s := by
        rintro ⟨r, hr⟩
        rw [(after?_eq_some_iff _ _ r).mpr hr.symm] at ha
        cases ha
      simp [hfront]

theorem occurs_eq_true_iff (needle s : List Char) : occurs needle s = true ↔ needle <:+: s := by
  rw [occurs, Option.isSome_iff_ne_none, ne_eq, cut?_eq_none_iff, not_not]

/-- The first of the places where a text stands in another one: what is before it and what is behind it. -/
structure IsFirst (needle s before behind : List Char) : Prop where
  eq : s = before ++ (needle ++ behind)
  first : ∀ a b, s = a ++ (needle ++ b) → before.length ≤ a.length

section IsFirst

variable {needle s a b : List Char}

theorem IsFirst.isInfix (h : IsFirst needle s a b) : needle <:+: s := ⟨a, b, by simp [h.eq]⟩

theorem IsFirst.unique (h : IsFirst needle s a b) {x y : List Char} (h' : IsFirst needle s x y) : a = x ∧ b = y := by
  have hlength : a.length = x.length := Nat.le_antisymm (h.first x y h'.eq) (h'.first a b h.eq)
  obtain ⟨ha, hb⟩ := List.append_inj (h.eq.symm.trans h'.eq) hlength
  exact ⟨ha, List.append_cancel_left hb⟩

theorem IsFirst.append (h : IsFirst needle s a b) (r : List Char) : IsFirst needle (s ++ r) a (b ++ r) := by
  refine ⟨by simp [h.eq], fun x y heq => ?_⟩
  by_contra hlt
  have hlength : (x ++ needle).length ≤ s.length := by
    have hs := congrArg List.length h.eq
    simp only [List.length_append] at hs ⊢
    omega
  -- an earlier place would end within the text
  have hprefix : x ++ needle <+: s :=
    List.prefix_of_prefix_length_le ⟨y, by rw [heq, List.append_assoc]⟩ (List.prefix_append s r) hlength
  obtain ⟨t, ht⟩ := hprefix
  exact hlt (h.first x t (by rw [← ht, List.append_assoc]))

theorem isFirst_of_cut? (h : cut? needle s = some (a, b)) : IsFirst needle s a b := by
  refine ⟨(eq_append_of_cut? h).trans (List.append_assoc _ _ _), ?_⟩
  induction s generalizing a with
  | nil =>
    simp only [cut?, Option.map_eq_some_iff, Prod.mk.injEq] at h
    obtain ⟨_, _, rfl, -⟩ := h
    exact fun _ _ _ => Nat.zero_le _
  | cons c s ih =>
    simp only [cut?] at h
    split at h
    · obtain ⟨rfl, -⟩ := Prod.mk.inj (Option.some.inj h)
      exact fun _ _ _ => Nat.zero_le _
    · next hnone =>
      simp only [Option.map_eq_some_iff, Prod.mk.injEq] at h
      obtain ⟨⟨a', b'⟩, hcut, rfl, rfl⟩ := h
      intro x y hxy
      cases x with
      | nil =>
        rw [(after?_eq_some_iff needle (c :: s) y).mpr hxy] at hnone
        cases hnone
      | cons d x => exact Nat.succ_le_succ (ih hcut x y (List.cons.inj hxy).2)

theorem cut?_eq_some_iff (needle s a b : List Char) : cut? needle s = some (a, b) ↔ IsFirst needle s a b := by
  refine ⟨isFirst_of_cut?, fun h => ?_⟩
  cases hcut : cut? needle s with
  | none => exact absurd h.isInfix ((cut?_eq_none_iff needle s).mp hcut)
  | some p =>
    obtain ⟨rfl, rfl⟩ := (isFirst_of_cut? hcut).unique h
    rfl

end IsFirst

def IsFreshBehind (needle s : List Char) : Prop := IsFirst needle (s ++ needle) s []

instance (needle s : List Char) : Decidable (IsFreshBehind needle s) :=
  decidable_of_iff _ (cut?_eq_some_iff needle (s ++ needle) s [])

theorem IsFreshBehind.isFirst {needle s : List Char} (h : IsFreshBehind needle s) (r : List Char) :
    IsFirst needle (s ++ (needle ++ r)) s r := by
  simpa using IsFirst.append h r

theorem IsFreshBehind.not_isInfix {needle s : List Char} (h : IsFreshBehind needle s) (hneedle : needle ≠ []) :
    ¬needle <:+: s := by
  rintro ⟨a, b, rfl⟩
  have hle := h.first a (b ++ needle) (by simp)
  have hpos := List.length_pos_iff.mpr hneedle
  simp only [List.length_append] at hle
  omega

theorem cut?_singleton_eq_some_iff (c : Char) (s a b : List Char) :
    cut? [c] s = some (a, b) ↔ s = a ++ c :: b ∧ c ∉ a := by
  rw [cut?_eq_some_iff]
  constructor
  · intro h
    refine ⟨h.eq, fun hc => ?_⟩
    obtain ⟨x, y, rfl⟩ := List.append_of_mem hc
    have hle := h.first x (y ++ c :: b) (by simp [h.eq])
    rw [List.length_append, List.length_cons] at hle
    omega
  · rintro ⟨rfl, hc⟩
    refine ⟨rfl, fun x y heq => ?_⟩
    by_contra hlt
    -- the character of an earlier place would be one of those in front
    rcases List.append_eq_append_iff.mp heq with ⟨t, rfl, -⟩ | ⟨t, rfl, ht⟩
    · simp at hlt
    · cases t with
      | nil => simp at hlt
      | cons d t =>
        obtain rfl := (List.cons.inj ht).1
        simp at hc

theorem splitBy_singleton (c : Char) (s : List Char) : splitBy [c] s = s.splitOn c := by
  induction hlength : s.length using Nat.strongRecOn generalizing s with
  | ind n ih =>
    rw [splitBy]
    split
    · next h =>
      have hc : c ∉ s := fun hmem => (cut?_eq_none_iff _ _).mp h ((List.singleton_infix_iff c s).mpr hmem)
      exact (List.splitOn_eq_singleton hc).symm
    · next a b h =>
      obtain ⟨rfl, ha⟩ := (cut?_singleton_eq_some_iff c s a b).mp h
      rw [List.splitOn_append_cons_self_of_not_mem ha, ih b.length (by simp [← hlength]; omega) b rfl]

end Stencil.Text.Find
