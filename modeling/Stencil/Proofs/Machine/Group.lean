import Mathlib.Tactic.Common
import Stencil.Machine.Host

set_option autoImplicit false
set_option relaxedAutoImplicit false

/-!
Numbers that nothing alive uses any more. A process that is started gets a number that was never given out, and its
group is that of the process that starts it, until it leads a group under its own number. So a number that no
living process has, for itself or for its group, never comes back, whatever the processes do.

Main statements: a kill that reaches a group and its leader leaves nobody alive under the group's number, and no turn
of a process brings the number back.
-/

namespace Stencil.Machine.Host

open Stencil.Filesystem

variable {h h₀ : Host} {p q : Process} {g n : Nat}

theorem mem_setProcess {r : Process} (hr : r ∈ (h.setProcess q).processes) : r = q ∨ r ∈ h.processes := by
  obtain ⟨r', hr', rfl⟩ := List.mem_map.mp hr
  split
  · exact .inl rfl
  · exact .inr hr'

/-- A number was given out, and no living process has it for itself or for its group. -/
structure Deserted (h : Host) (g : Nat) : Prop where
  known : g < h.fresh
  nobody (p : Process) : p ∈ h.processes → p.isAlive = true → p.pid ≠ g ∧ p.group ≠ g

/-- No number is given out again, and one that nothing alive uses is not used again. -/
structure Becomes (h₀ h : Host) : Prop where
  fresh : h₀.fresh ≤ h.fresh
  deserted (g : Nat) : h₀.Deserted g → h.Deserted g

namespace Becomes

theorem refl (h : Host) : Becomes h h := ⟨Nat.le_refl _, fun _ hg => hg⟩

theorem of_processes {h' : Host} (hf : Becomes h₀ h) (hp : h'.processes = h.processes) (hn : h.fresh ≤ h'.fresh) :
    Becomes h₀ h' := by
  refine ⟨Nat.le_trans hf.fresh hn, fun g hg => ?_⟩
  obtain ⟨hknown, hnobody⟩ := hf.deserted g hg
  exact ⟨Nat.lt_of_lt_of_le hknown hn, hp ▸ hnobody⟩

theorem trans {h' : Host} (hf : Becomes h₀ h) (hf' : Becomes h h') : Becomes h₀ h' :=
  ⟨Nat.le_trans hf.fresh hf'.fresh, fun g hg => hf'.deserted g (hf.deserted g hg)⟩

theorem setProcess (hf : Becomes h₀ h) (hp : p ∈ h₀.processes) (halive : p.isAlive = true) (hpid : q.pid = p.pid)
    (hgroup : q.group = p.group ∨ q.group = p.pid) : Becomes h₀ (h.setProcess q) := by
  refine ⟨hf.fresh, fun g hg => ⟨(hf.deserted g hg).known, fun r hr hr' => ?_⟩⟩
  obtain ⟨hnumber, hothers⟩ := hg.nobody p hp halive
  rcases mem_setProcess hr with rfl | hr
  · refine ⟨hpid ▸ hnumber, ?_⟩
    rcases hgroup with hgroup | hgroup <;> rwa [hgroup]
  · exact (hf.deserted g hg).nobody r hr hr'

theorem resume (hf : Becomes h₀ h) (hp : p ∈ h₀.processes) (halive : p.isAlive = true) (program : Program)
    (hpid : q.pid = p.pid) (hgroup : q.group = p.group ∨ q.group = p.pid) : Becomes h₀ (h.resume q program) :=
  hf.setProcess hp halive hpid hgroup

theorem finish (hf : Becomes h₀ h) (hp : p ∈ h₀.processes) (halive : p.isAlive = true) (e : Ending) :
    Becomes h₀ (h.finish p e) :=
  hf.setProcess hp halive rfl (.inl rfl)

theorem reap (hf : Becomes h₀ h) (pid : Nat) : Becomes h₀ (h.reap pid) := by
  refine ⟨hf.fresh, fun g hg => ⟨(hf.deserted g hg).known, fun r hr hr' => ?_⟩⟩
  exact (hf.deserted g hg).nobody r (List.mem_filter.mp hr).1 hr'

/-- A process with a new number joins. Its group is that of a process that is alive, or its own. -/
theorem append (hf : Becomes h₀ h) (hpid : h.fresh ≤ q.pid) (hfresh : q.pid < n)
    (hgroup : q.group = q.pid ∨ ∃ p ∈ h₀.processes, p.isAlive = true ∧ q.group = p.group) :
    Becomes h₀ { h with processes := h.processes ++ [q], fresh := n } := by
  have hn : h.fresh ≤ n := by omega
  refine ⟨Nat.le_trans hf.fresh hn, fun g hg => ?_⟩
  obtain ⟨hknown, hnobody⟩ := hf.deserted g hg
  refine ⟨Nat.lt_of_lt_of_le hknown hn, fun r hr hr' => ?_⟩
  rcases List.mem_append.mp hr with hr | hr
  · exact hnobody r hr hr'
  obtain rfl := List.mem_singleton.mp hr
  have hnumber : r.pid ≠ g := by omega
  refine ⟨hnumber, ?_⟩
  rcases hgroup with hgroup | ⟨p, hp, halive, hgroup⟩
  · rwa [hgroup]
  · rw [hgroup]
    exact (hg.nobody p hp halive).2

theorem deliver (hf : Becomes h₀ h) (hp : p ∈ h₀.processes) (signal : Nat) : Becomes h₀ (h.deliver signal p) := by
  rw [Host.deliver]
  split
  · exact hf
  rename_i hdead
  have halive : p.isAlive = true := by simpa using hdead
  split
  · exact hf.finish hp halive _
  split
  · exact hf
  · exact hf.setProcess hp halive rfl (.inl rfl)
  · exact hf
  · exact hf.resume hp halive _ rfl (.inl rfl)
  · exact hf
  · exact hf.setProcess hp halive rfl (.inl rfl)
  · exact hf.setProcess hp halive rfl (.inl rfl)
  · exact hf
  · exact hf.finish hp halive _

theorem deliverAll (hf : Becomes h₀ h) {ps : List Process} (hps : ∀ p ∈ ps, p ∈ h₀.processes) (signal : Nat) :
    Becomes h₀ (h.deliverAll signal ps) := by
  induction ps generalizing h with
  | nil => exact hf
  | cons p ps ih =>
    exact ih (hf.deliver (hps p List.mem_cons_self) signal) fun q hq => hps q (List.mem_cons_of_mem p hq)

theorem deliverTo (hf : Becomes h₀ h) (signal pid : Nat) : Becomes h₀ (h.deliverTo signal pid) :=
  hf.trans ((refl h).deliverAll (fun _ hp => (List.mem_filter.mp hp).1) signal)

theorem deliverGroup (hf : Becomes h₀ h) (signal group : Nat) : Becomes h₀ (h.deliverGroup signal group) :=
  hf.trans ((refl h).deliverAll (fun _ hp => (List.mem_filter.mp hp).1) signal)

end Becomes

theorem open?_processes {path : String} {mode : OpenMode} {h' : Host} {c : Channel}
    (ho : h.open? p path mode = .ok (h', c)) : h'.processes = h.processes ∧ h'.fresh = h.fresh := by
  unfold open? at ho
  split at ho
  · cases hentry : (h.viewOf p).entry path with
    | error e => rw [hentry] at ho; cases ho
    | ok found =>
      rw [hentry] at ho
      obtain ⟨place, _ | _ | _ | _⟩ := found <;> cases ho <;> exact ⟨rfl, rfl⟩
  · split at ho <;> cases ho <;> exact ⟨rfl, rfl⟩

/-- What a process asks for gives nobody a number that was given out before, and no group that nobody is in. -/
theorem becomes_act {program : Program} {h' : Host} (hp : p ∈ h.processes) (halive : p.isAlive = true)
    (ha : h.act p program = some h') : Becomes h h' := by
  have hf := Becomes.refl h
  -- most requests only resume the process, on a machine with the same processes
  have resumed {k : Host} {q : Process} (next : Program) (hsame : k.processes = h.processes)
      (hfresh : h.fresh ≤ k.fresh) (hpid : q.pid = p.pid) (hgroup : q.group = p.group ∨ q.group = p.pid) :
      Becomes h (k.resume q next) :=
    (hf.of_processes hsame hfresh).resume hp halive next hpid hgroup
  cases program with
  | finish e =>
    cases ha
    exact hf.finish hp halive e
  | pause n next =>
    cases ha
    exact hf.setProcess hp halive rfl (.inl rfl)
  | fork child next =>
    cases ha
    have hparent : Becomes h (h.resume p (next h.fresh)) := hf.resume hp halive _ rfl (.inl rfl)
    exact hparent.append (Nat.le_refl _) (Nat.lt_succ_self _) (.inr ⟨p, hp, halive, rfl⟩)
  | await pid interruptible next =>
    rw [act] at ha
    split at ha
    · cases ha
      exact resumed _ rfl (Nat.le_refl _) rfl (.inl rfl)
    · split at ha
      · cases ha
        exact (hf.reap pid).resume hp halive _ rfl (.inl rfl)
      · split at ha <;> cases ha
        exact resumed _ rfl (Nat.le_refl _) rfl (.inl rfl)
  | pipe next =>
    cases ha
    refine resumed _ rfl ?_ rfl (.inl rfl)
    exact Nat.le_add_right h.fresh 3
  | openFile path mode next =>
    rw [act] at ha
    split at ha
    · cases ha
      exact resumed _ rfl (Nat.le_refl _) rfl (.inl rfl)
    · split at ha
      · cases ha
        exact resumed _ rfl (Nat.le_refl _) rfl (.inl rfl)
      · rename_i k c hopened
        cases ha
        have hsame : k.processes = h.processes ∧ k.fresh = h.fresh := by
          split at hopened
          · cases hopened
            exact ⟨rfl, rfl⟩
          · exact open?_processes hopened
        exact resumed _ hsame.1 (hsame.2 ▸ Nat.le_succ _) rfl (.inl rfl)
  | read file limit next =>
    rw [act] at ha
    split at ha
    case h_7 =>
      -- a pipe without bytes is waited for
      split at ha <;> cases ha
      exact resumed _ rfl (Nat.le_refl _) rfl (.inl rfl)
    all_goals
      cases ha
      exact resumed _ rfl (Nat.le_refl _) rfl (.inl rfl)
  | write file bytes next =>
    rw [act] at ha
    split at ha
    case h_7 =>
      -- a pipe that nobody reads may end the process, and a full one is waited for
      extract_lets q at ha
      split at ha
      · split at ha <;> cases ha
        · exact hf.finish hp halive _
        · exact resumed _ rfl (Nat.le_refl _) rfl (.inl rfl)
      · split at ha <;> cases ha
        exact resumed _ rfl (Nat.le_refl _) rfl (.inl rfl)
    all_goals
      cases ha
      exact resumed _ rfl (Nat.le_refl _) rfl (.inl rfl)
  | duplicate source target next =>
    rw [act] at ha
    split at ha <;> cases ha <;> exact resumed _ rfl (Nat.le_refl _) rfl (.inl rfl)
  | close file next =>
    cases ha
    exact resumed _ rfl (Nat.le_refl _) rfl (.inl rfl)
  | send target signal next =>
    have hparent (b : Bool) : Becomes h (h.resume p (next b)) := resumed _ rfl (Nat.le_refl _) rfl (.inl rfl)
    rw [act] at ha
    split at ha <;> cases ha
    · exact hparent _
    · exact List.foldlRecOn _ _ (hparent _) fun k hk q _ => hk.deliverTo signal q.pid
  | arrange signal d next =>
    cases ha
    exact resumed _ rfl (Nat.le_refl _) rfl (.inl rfl)
  | noted next =>
    cases ha
    exact resumed _ rfl (Nat.le_refl _) rfl (.inl rfl)
  | files f =>
    cases ha
    exact resumed _ rfl (Nat.le_refl _) rfl (.inl rfl)
  | lead next =>
    cases ha
    exact resumed _ rfl (Nat.le_refl _) rfl (.inr rfl)

theorem becomes_turn? {pid : Nat} {h' : Host} (ht : h.turn? pid = some h') : Becomes h h' := by
  unfold turn? at ht
  split at ht
  · cases ht
  rename_i p hfound
  have hp : p ∈ h.processes := List.mem_of_find?_eq_some hfound
  split at ht
  · rename_i hactivity
    exact becomes_act hp (by rw [Process.isAlive, hactivity]) ht
  · rename_i hactivity
    split at ht <;> cases ht
    exact (Becomes.refl h).resume hp (by rw [Process.isAlive, hactivity]) _ rfl (.inl rfl)
  · cases ht

theorem round?_induction {motive : Host → Prop} {k : Host} (hr : h.round? = some k)
    (hturn : ∀ {h k : Host} {pid : Nat}, motive h → h.turn? pid = some k → motive k)
    (htime : ∀ {h : Host} (now : Nat), motive h → motive { h with now := now }) (hh : motive h) : motive k := by
  unfold round? at hr
  generalize hs : List.foldl _ _ _ = s at hr
  have hturns : motive s.1 := by
    rw [← hs]
    refine List.foldlRecOn (motive := fun s : Host × Bool => motive s.1) _ _ hh ?_
    rintro ⟨k, moved⟩ hk pid -
    dsimp only
    split
    · rename_i hk'
      exact hturn hk hk'
    · exact hk
  dsimp only at hr
  split at hr
  · cases hr
    exact htime _ hturns
  · cases hr

theorem becomes_launch (h : Host) (working : Place) (program : Nat → Program) :
    Becomes h (h.launch working program).1 := by
  let k : Host := ((h.newPipe true).1.newPipe true).1
  have hopened : Becomes h { k with channels := (h.launch working program).1.channels } :=
    (Becomes.refl h).of_processes rfl (Nat.le_add_right h.fresh 2)
  exact hopened.append (Nat.le_add_right k.fresh 3) (Nat.lt_succ_self (k.fresh + 3)) (.inl rfl)

theorem launch_lt_fresh (h : Host) (working : Place) (program : Nat → Program) :
    (h.launch working program).2.1 < (h.launch working program).1.fresh :=
  Nat.lt_succ_self (h.fresh + 5)

/-! ### A kill -/

theorem mem_deliver_kill {r : Process} (hr : r ∈ (h.deliver killSignal p).processes) (halive : r.isAlive = true) :
    r ∈ h.processes ∧ (p.isAlive = true → r.pid ≠ p.pid) := by
  rw [deliver] at hr
  split at hr
  · rename_i hdead
    exact ⟨hr, fun hp => by simp [hp] at hdead⟩
  · obtain ⟨r', hr', rfl⟩ := List.mem_map.mp hr
    by_cases hpid : r'.pid = p.pid
    · rw [if_pos hpid] at halive
      cases halive
    · rw [if_neg hpid]
      exact ⟨hr', fun _ => hpid⟩

theorem mem_deliverAll_kill {ps : List Process} {r : Process} (hr : r ∈ (h.deliverAll killSignal ps).processes)
    (halive : r.isAlive = true) : r ∈ h.processes ∧ ∀ p ∈ ps, p.isAlive = true → r.pid ≠ p.pid := by
  induction ps generalizing h with
  | nil => exact ⟨hr, nofun⟩
  | cons p ps ih =>
    obtain ⟨hmem, hothers⟩ := ih hr
    obtain ⟨hmem, hfirst⟩ := mem_deliver_kill hmem halive
    exact ⟨hmem, List.forall_mem_cons.mpr ⟨hfirst, hothers⟩⟩

/-- A kill that reaches a group and the process that gave it its number leaves nobody alive with the number. -/
theorem deserted_of_kill (hg : g < h.fresh) :
    ((h.deliverGroup killSignal g).deliverTo killSignal g).Deserted g := by
  have hf := ((Becomes.refl h).deliverGroup killSignal g).deliverTo killSignal g
  refine ⟨Nat.lt_of_lt_of_le hg hf.fresh, fun r hr halive => ?_⟩
  obtain ⟨hr, hnumber⟩ := mem_deliverAll_kill hr halive
  obtain ⟨hr', hgroup⟩ := mem_deliverAll_kill hr halive
  constructor
  · intro hpid
    exact hnumber r (List.mem_filter.mpr ⟨hr, by simpa using hpid⟩) halive rfl
  · intro hmember
    exact hgroup r (List.mem_filter.mpr ⟨hr', by simpa using hmember⟩) halive rfl

end Stencil.Machine.Host
