import Mathlib.Data.List.Induction
import Stencil.Proofs.Filesystem.Canonical
import Stencil.Proofs.First
import Stencil.Upkeep.Schedule

set_option autoImplicit false
set_option relaxedAutoImplicit false

/-!
Which of the commands that are called for are due, and in which form. Main statements: the form of a command is told
by what the command leads to; each form is due once, in the order of the first calls, and as its first call has it.
-/

namespace Stencil.Upkeep.Schedule

open Stencil.Filesystem

/-- The form of a command: the path from the root of what the command leads to, or the command as it is if it leads to
nothing or this path is too long. -/
inductive IsForm (v : View) (command : String) : String → Prop
  | path {p : Place} {e : Entry} : v.Reaches true command (.entry p e) → (pathOf p).utf8ByteSize < pathLimit →
      IsForm v command (pathOf p)
  | same : (∀ p e, v.Reaches true command (.entry p e) → pathLimit ≤ (pathOf p).utf8ByteSize) →
      IsForm v command command

variable {v : View} {command form : String} {p : Place} {e : Entry}

theorem normalize_of_reaches (h : v.Reaches true command (.entry p e)) :
    normalize v command = if pathLimit ≤ (pathOf p).utf8ByteSize then command else pathOf p := by
  rw [normalize, View.canonical_of_reaches h]
  by_cases hlong : pathLimit ≤ (pathOf p).utf8ByteSize
  · rw [if_pos hlong, if_pos hlong]
  · rw [if_neg hlong, if_neg hlong]

theorem normalize_of_not_reaches (h : ∀ p e, ¬v.Reaches true command (.entry p e)) : normalize v command = command := by
  rw [normalize, View.canonical]
  cases hentry : v.entry command with
  | error f => rfl
  | ok m => exact absurd (View.entry_eq_ok_iff.mp hentry) (h m.1 m.2)

theorem isForm_normalize (v : View) (command : String) : IsForm v command (normalize v command) := by
  by_cases h : ∃ p e, v.Reaches true command (.entry p e)
  · obtain ⟨p, e, hreaches⟩ := h
    rw [normalize_of_reaches hreaches]
    split
    · next hlong =>
      refine .same fun q g hother => ?_
      obtain ⟨rfl, -⟩ := Found.entry.inj (Except.ok.inj (hother.symm.trans hreaches))
      exact hlong
    · next hshort => exact .path hreaches (Nat.not_le.mp hshort)
  · push Not at h
    rw [normalize_of_not_reaches h]
    exact .same fun p e hreaches => absurd hreaches (h p e)

theorem normalize_eq_iff : normalize v command = form ↔ IsForm v command form := by
  constructor
  · rintro rfl
    exact isForm_normalize v command
  · intro h
    cases h with
    | path hreaches hshort => rw [normalize_of_reaches hreaches, if_neg (Nat.not_le.mpr hshort)]
    | same hlong =>
      by_cases h : ∃ p e, v.Reaches true command (.entry p e)
      · obtain ⟨p, e, hreaches⟩ := h
        rw [normalize_of_reaches hreaches, if_pos (hlong p e hreaches)]
      · push Not at h
        exact normalize_of_not_reaches h

/-- What is due after some calls: each command once, in the order of its first call, and with the time that
this call gives it. -/
structure IsFirst (calls due : List Scheduled) : Prop where
  commands : due.map Scheduled.command = (calls.map Scheduled.command).eraseDups
  first : ∀ s ∈ due, calls.find? (fun y => y.command = s.command) = some s

theorem firstOfEach_add {calls due : List Scheduled} (h : FirstOfEach Scheduled.command calls due) (x : Scheduled) :
    FirstOfEach Scheduled.command (calls ++ [x]) (add due x) := by
  rw [Schedule.add]
  split
  · next hthere => exact h.pass (by simpa using hthere)
  · next hnew => exact h.keep (by simpa using hnew)

theorem firstOfEach_ofCalls (calls : List Scheduled) : FirstOfEach Scheduled.command calls (ofCalls calls) := by
  induction calls using List.reverseRecOn with
  | nil => exact .nil _
  | append_singleton calls x ih =>
    rw [ofCalls, List.foldl_append]
    exact firstOfEach_add ih x

theorem isFirst_ofCalls (calls : List Scheduled) : IsFirst calls (ofCalls calls) :=
  ⟨(firstOfEach_ofCalls calls).kinds, (firstOfEach_ofCalls calls).first⟩

end Stencil.Upkeep.Schedule
