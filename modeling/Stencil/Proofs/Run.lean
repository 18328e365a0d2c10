import Mathlib.Data.List.Forall2
import Mathlib.Data.List.Induction

set_option autoImplicit false
set_option relaxedAutoImplicit false

/-!
Runs of a transition that is not always possible. Main statements: an event in the middle of a run is a
transition between what is before it and what is behind it, and what holds at the start and after every
transition that it held before holds after every run. A row of calls that may fail succeeds if each of them does.
-/

namespace Stencil.Run

variable {σ ε : Type} {step? : σ → ε → Option σ} {x y : σ} {before after : List ε}

theorem append_eq_some_iff : (before ++ after).foldlM step? x = some y ↔
    ∃ z, before.foldlM step? x = some z ∧ after.foldlM step? z = some y := by
  rw [List.foldlM_append]
  exact Option.bind_eq_some_iff

/-- An event in the middle of a run is a transition between what is before it and what is behind it. -/
theorem exists_step_of_run {e : ε} (h : (before ++ e :: after).foldlM step? x = some y) :
    ∃ z z', before.foldlM step? x = some z ∧ step? z e = some z' ∧ after.foldlM step? z' = some y := by
  obtain ⟨z, hz, hbehind⟩ := append_eq_some_iff.mp h
  rw [List.foldlM_cons] at hbehind
  obtain ⟨z', hstep, hafter⟩ := Option.bind_eq_some_iff.mp hbehind
  exact ⟨z, z', hz, hstep, hafter⟩

/-- What holds at the start, and after every transition that it held before, holds after every run. -/
theorem induction {motive : List ε → σ → Prop} (hstart : motive [] x)
    (hstep : ∀ {events e z z'}, events.foldlM step? x = some z → step? z e = some z' → motive events z →
      motive (events ++ [e]) z')
    {events : List ε} (h : events.foldlM step? x = some y) : motive events y := by
  induction events using List.reverseRecOn generalizing y with
  | nil =>
    cases h
    exact hstart
  | append_singleton events e ih =>
    obtain ⟨z, z', hz, hm, hend⟩ := exists_step_of_run h
    cases hend
    exact hstep hz hm (ih hz)

theorem mapM_eq_ok_iff {α β ε : Type} {f : α → Except ε β} {as : List α} {bs : List β} :
    as.mapM f = .ok bs ↔ List.Forall₂ (fun a b => f a = .ok b) as bs := by
  induction as generalizing bs with
  | nil =>
    rw [List.mapM_nil, List.forall₂_nil_left_iff]
    exact ⟨fun h => (Except.ok.inj h).symm, fun h => congrArg Except.ok h.symm⟩
  | cons a as ih =>
    rw [List.mapM_cons, List.forall₂_cons_left_iff]
    constructor
    · intro h
      cases ha : f a with
      | error e =>
        rw [ha] at h
        cases h
      | ok b =>
        cases has : as.mapM f with
        | error e =>
          rw [ha, has] at h
          cases h
        | ok bs' =>
          rw [ha, has] at h
          cases h
          exact ⟨b, bs', rfl, ih.mp has, rfl⟩
    · rintro ⟨b, bs', ha, has, rfl⟩
      rw [ha, ih.mpr has]
      rfl

end Stencil.Run
