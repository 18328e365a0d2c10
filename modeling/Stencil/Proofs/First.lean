import Mathlib.Data.List.Basic

set_option autoImplicit false
set_option relaxedAutoImplicit false

/-!
The first of each kind in a list. Main statements: an element that comes behind all others is passed over if one of its
kind was kept, and is kept otherwise; and nothing else is the first of each kind.
-/

namespace Stencil

variable {α κ : Type} [DecidableEq κ] {kind : α → κ} {all kept : List α} {a : α}

/-- What is kept of a list: in order, the first of each kind. -/
structure FirstOfEach (kind : α → κ) (all kept : List α) : Prop where
  sublist : kept.Sublist all
  kinds : kept.map kind = (all.map kind).eraseDups
  distinct : kept.Pairwise fun a b => kind a ≠ kind b
  first : ∀ a ∈ kept, all.find? (fun b => kind b = kind a) = some a

private theorem eraseDups_append_of_mem {l : List κ} {k : κ} (h : k ∈ l) : (l ++ [k]).eraseDups = l.eraseDups := by
  rw [List.eraseDups_append]
  simp [List.removeAll, h]

private theorem eraseDups_append_of_notMem {l : List κ} {k : κ} (h : k ∉ l) :
    (l ++ [k]).eraseDups = l.eraseDups ++ [k] := by
  rw [List.eraseDups_append]
  simp [List.removeAll, h, List.eraseDups_cons]

namespace FirstOfEach

theorem nil (kind : α → κ) : FirstOfEach kind [] [] :=
  ⟨.slnil, rfl, .nil, fun _ ha => absurd ha List.not_mem_nil⟩

theorem mem_kinds_iff (h : FirstOfEach kind all kept) (k : κ) : k ∈ kept.map kind ↔ k ∈ all.map kind := by
  rw [h.kinds, List.mem_eraseDups]

theorem find?_append (h : FirstOfEach kind all kept) (more : List α) (ha : a ∈ kept) :
    (all ++ more).find? (fun b => kind b = kind a) = some a := by
  rw [List.find?_append, h.first a ha]
  rfl

theorem pass (h : FirstOfEach kind all kept) (ha : kind a ∈ kept.map kind) : FirstOfEach kind (all ++ [a]) kept := by
  have hmem : kind a ∈ all.map kind := (h.mem_kinds_iff _).mp ha
  refine ⟨h.sublist.trans (List.sublist_append_left _ _), ?_, h.distinct, fun b hb => h.find?_append _ hb⟩
  rw [List.map_append, List.map_singleton, eraseDups_append_of_mem hmem]
  exact h.kinds

theorem keep (h : FirstOfEach kind all kept) (ha : kind a ∉ kept.map kind) :
    FirstOfEach kind (all ++ [a]) (kept ++ [a]) := by
  have hmem : kind a ∉ all.map kind := fun hmem => ha ((h.mem_kinds_iff _).mpr hmem)
  refine ⟨h.sublist.append (.refl _), ?_, ?_, fun b hb => ?_⟩
  · rw [List.map_append, List.map_append, List.map_singleton, eraseDups_append_of_notMem hmem, h.kinds]
  · rw [List.pairwise_append]
    refine ⟨h.distinct, List.pairwise_singleton _ a, fun b hb c hc hsame => ?_⟩
    obtain rfl := List.mem_singleton.mp hc
    exact ha (hsame ▸ List.mem_map_of_mem hb)
  · rcases List.mem_append.mp hb with hb | hb
    · exact h.find?_append _ hb
    · obtain rfl := List.mem_singleton.mp hb
      have hnone : all.find? (fun c => kind c = kind b) = none := by
        rw [List.find?_eq_none]
        intro c hc hsame
        exact hmem (List.mem_map.mpr ⟨c, hc, of_decide_eq_true hsame⟩)
      rw [List.find?_append, hnone]
      simp

theorem unique {kept' : List α} (h : FirstOfEach kind all kept) (h' : FirstOfEach kind all kept') : kept = kept' := by
  have hkinds : kept.map kind = kept'.map kind := h.kinds.trans h'.kinds.symm
  -- that a list is the first of each kind does not pass to its tail, but where each element is found in `all` does
  have hfirst := h.first
  have hfirst' := h'.first
  clear h h'
  induction kept generalizing kept' with
  | nil => exact (List.map_eq_nil_iff.mp hkinds.symm).symm
  | cons a kept ih =>
    obtain ⟨b, rest, rfl, hb, hrest⟩ := List.map_eq_cons_iff.mp hkinds.symm
    have ha := hfirst a List.mem_cons_self
    rw [← hb, hfirst' b List.mem_cons_self] at ha
    have hsame : kept = rest := ih hrest.symm (fun c hc => hfirst c (List.mem_cons_of_mem _ hc))
      fun c hc => hfirst' c (List.mem_cons_of_mem _ hc)
    rw [Option.some.inj ha, hsame]

end FirstOfEach

end Stencil
