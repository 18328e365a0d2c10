import Stencil.Filesystem.AtomicWrite

set_option autoImplicit false
set_option relaxedAutoImplicit false

/-!
Planned steps and the files that others may see while they are done. Main statement: where each step goes on from
where the one before it has led, and whatever interrupts a step can be cleaned up, the files are at all times as
the plan shows them, and at the end they are as it promises for success or for failure.
-/

namespace Stencil.Filesystem

/-- How the files are when a step does not come to its end: it is stopped from outside, however far it got, or the
files do not let it through. -/
inductive PlannedStep.Interrupted (s : PlannedStep) (v : View) : View → Prop
  | partway (n : Nat) : Interrupted s v (s.partway n v)
  | stuck : Interrupted s v (s.stuck v)

/-- What a step does: from one state of the files it goes on to another one, and however it is interrupted,
cleaning up leads to a third. -/
structure PlannedStep.Keeps (s : PlannedStep) (shown failed before after : View → Prop) : Prop where
  shows : ∀ {v : View}, before v → shown v
  onward : ∀ {v w : View}, before v → s.act v = .ok w → after w
  interrupted : ∀ {v u : View}, before v → s.Interrupted v u → shown u ∧ failed (s.cleanUp u)

namespace AtomicWrite

/-- The files as others may see them at some time while steps are done: before a step, when it has got partway,
when it is interrupted, and when it has been cleaned up. -/
inductive Seen (fails : Outage) : View → List PlannedStep → View → Prop
  | now (v : View) (steps : List PlannedStep) : Seen fails v steps v
  | during {v u : View} {s : PlannedStep} (rest : List PlannedStep) :
      s.Interrupted v u → Seen fails v (s :: rest) u
  | cleaned {v w : View} {s : PlannedStep} {e : IoError} (rest : List PlannedStep) :
      attempt fails s v = .error (e, w) → Seen fails v (s :: rest) (s.cleanUp w)
  | later {v w u : View} {s : PlannedStep} {rest : List PlannedStep} :
      attempt fails s v = .ok w → Seen fails w rest u → Seen fails v (s :: rest) u

section Attempt

variable {fails : Outage} {s : PlannedStep} {v w : View} {e : IoError}

theorem attempt_eq_ok_iff : attempt fails s v = .ok w ↔ fails s.step = none ∧ s.act v = .ok w := by
  rw [attempt]
  cases fails s.step with
  | some f => simp
  | none =>
    cases s.act v with
    | error e => exact ⟨nofun, fun h => nomatch h.2⟩
    | ok u =>
      constructor
      · rintro ⟨⟩
        exact ⟨rfl, rfl⟩
      · rintro ⟨-, ⟨⟩⟩
        rfl

theorem attempt_of_outage {f : Fault} (h : fails s.step = some f) :
    attempt fails s v = .error (f.error, s.partway f.progress v) := by
  rw [attempt, h]

theorem interrupted_of_attempt (h : attempt fails s v = .error (e, w)) : s.Interrupted v w := by
  rw [attempt] at h
  split at h
  · next f _ =>
    cases h
    exact .partway f.progress
  · cases ha : s.act v with
    | ok u =>
      rw [ha] at h
      cases h
    | error e' =>
      rw [ha] at h
      cases h
      exact .stuck

theorem run_of_error (rest : List PlannedStep) (h : attempt fails s v = .error (e, w)) :
    run fails v (s :: rest) = ⟨v, [w, s.cleanUp w], some ⟨s.path, e⟩⟩ := by
  rw [run, h]

theorem run_of_ok (rest : List PlannedStep) (h : attempt fails s v = .ok w) :
    run fails v (s :: rest) = ⟨v, w :: (run fails w rest).after, (run fails w rest).failure?⟩ := by
  rw [run, h]

theorem attempt_of_done {rest : List PlannedStep} (h : (run fails v (s :: rest)).failure? = none) :
    ∃ w, attempt fails s v = .ok w ∧ (run fails w rest).failure? = none := by
  cases ha : attempt fails s v with
  | error f =>
    rw [run_of_error rest ha] at h
    cases h
  | ok w =>
    rw [run_of_ok rest ha] at h
    exact ⟨w, rfl, h⟩

theorem run_before (fails : Outage) (v : View) (steps : List PlannedStep) :
    (run fails v steps).before = v := by
  cases steps with
  | nil => rfl
  | cons s rest =>
    rw [run]
    split <;> rfl

theorem view_of_ok (rest : List PlannedStep) (h : attempt fails s v = .ok w) :
    (run fails v (s :: rest)).view = (run fails w rest).view := by
  rw [run_of_ok rest h, WriteRun.view, WriteRun.view, run_before, List.getLastD_cons]

end Attempt

theorem seen_of_mem_after (fails : Outage) (v : View) (steps : List PlannedStep) {u : View}
    (h : u ∈ (run fails v steps).after) : Seen fails v steps u := by
  induction steps generalizing v with
  | nil => exact absurd h List.not_mem_nil
  | cons s rest ih =>
    cases ha : attempt fails s v with
    | error f =>
      rw [run_of_error rest ha] at h
      rcases List.mem_cons.mp h with rfl | h
      · exact .during rest (interrupted_of_attempt ha)
      · obtain rfl := List.mem_singleton.mp h
        exact .cleaned rest ha
    | ok w =>
      rw [run_of_ok rest ha] at h
      rcases List.mem_cons.mp h with rfl | h
      · exact .later ha (.now _ rest)
      · exact .later ha (ih w h)

/-- Steps of which each goes on where the one before it has led. -/
inductive Chain (shown failed : View → Prop) : (View → Prop) → List PlannedStep → (View → Prop) → Prop
  | nil {state : View → Prop} : (∀ v, state v → shown v) → Chain shown failed state [] state
  | cons {before after : View → Prop} (between : View → Prop) {s : PlannedStep} {rest : List PlannedStep} :
      s.Keeps shown failed before between → Chain shown failed between rest after →
      Chain shown failed before (s :: rest) after

variable {shown failed before after : View → Prop} {steps : List PlannedStep}

theorem Chain.run_spec (h : Chain shown failed before steps after) (fails : Outage) {v : View} (hv : before v) :
    ((run fails v steps).failure? = none → after (run fails v steps).view) ∧
      ((run fails v steps).failure? ≠ none → failed (run fails v steps).view) := by
  induction h generalizing v with
  | nil _ => exact ⟨fun _ => hv, fun h => absurd rfl h⟩
  | @cons before after between s rest hs _ ih =>
    cases ha : attempt fails s v with
    | error f =>
      rw [run_of_error rest ha]
      exact ⟨nofun, fun _ => (hs.interrupted hv (interrupted_of_attempt ha)).2⟩
    | ok w =>
      rw [view_of_ok rest ha, run_of_ok rest ha]
      exact ih (hs.onward hv (attempt_eq_ok_iff.mp ha).2)

theorem Chain.seen_spec (h : Chain shown failed before steps after) (hf : ∀ v, failed v → shown v)
    {fails : Outage} {v u : View} (hv : before v) (hu : Seen fails v steps u) : shown u := by
  induction h generalizing v with
  | nil hshown =>
    cases hu
    exact hshown _ hv
  | @cons before after between s rest hs _ ih =>
    cases hu with
    | now => exact hs.shows hv
    | during _ hi => exact (hs.interrupted hv hi).1
    | cleaned _ ha => exact hf _ (hs.interrupted hv (interrupted_of_attempt ha)).2
    | later ha hu => exact ih (hs.onward hv (attempt_eq_ok_iff.mp ha).2) hu

def plan (v : View) (path content : String) : List PlannedStep :=
  if v.exists? path then replacingPlan (temporaryPath v path) path (Text.Utf8.encode content)
  else directPlan path (Text.Utf8.encode content)

theorem write_eq_run (faults : Faults) (v : View) (path content : String) :
    write faults v path content = run (faults 0) v (plan v path content) := by
  rw [write, plan]
  split <;> rfl

theorem write_of_exists {v : View} {path : String} (h : v.exists? path = true) (faults : Faults) (content : String) :
    write faults v path content =
      run (faults 0) v (replacingPlan (temporaryPath v path) path (Text.Utf8.encode content)) := by
  rw [write, if_pos h]

theorem write_of_missing {v : View} {path : String} (h : v.exists? path = false) (faults : Faults) (content : String) :
    write faults v path content = run (faults 0) v (directPlan path (Text.Utf8.encode content)) := by
  rw [write, if_neg (Bool.not_eq_true _ ▸ h)]

/-- The files as others may see them at some time while a file is written. -/
def SeenWhile (faults : Faults) (v : View) (path content : String) (u : View) : Prop :=
  Seen (faults 0) v (plan v path content) u

end AtomicWrite

end Stencil.Filesystem
