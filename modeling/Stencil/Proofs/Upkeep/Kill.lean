import Stencil.Proofs.Machine.Group
import Stencil.Proofs.Upkeep.Verdict

set_option autoImplicit false
set_option relaxedAutoImplicit false

/-!
What becomes of the processes of a command whose time is over. The watcher takes up one thing: the end of the process,
which it reports, or the request to kill, which reaches the whole group. A command may come to a timeout on both ways,
for the end can be there by the time the request is made.

Main statement: at a site where anything may happen between the moves of a command that comes to a timeout, its whole
group is killed before the caller returns exactly if no end is reported, and from then on no process of the group is
alive. Where an end is reported nobody is killed, and what the command left in the background outlives the timeout.
-/

namespace Stencil.Upkeep

open Stencil.Machine Stencil.Time

namespace Execution

variable {limited : Bool} {x y : Execution} {e : ExecutionEvent} {events : List ExecutionEvent}

/-! ### The two ways of the watcher -/

/-- How the kill and the report of the end stand to the events so far. There is one of them at most, and one of them
before the watcher hands over. -/
structure Parted (events : List ExecutionEvent) (x : Execution) : Prop where
  killed : x.groupKilled = true ↔ .watcherKills ∈ events
  before : x.watcher = .watching ∨ x.watcher = .reporting → x.groupKilled = false ∧ .watcherReports ∉ events
  behind : x.watcher ≠ .watching → x.watcher ≠ .reporting → x.groupKilled = true ∨ .watcherReports ∈ events
  unreported : x.groupKilled = true → .watcherReports ∉ events

theorem parted_start (limited : Bool) : (start limited).Parted [] := by
  constructor <;> simp [start]

theorem Move.parted (h : Move x e y) (hx : x.Parted events) : y.Parted (events ++ [e]) := by
  obtain ⟨hkilled, hbefore, hbehind, hunreported⟩ := hx
  cases h <;> constructor <;> simp_all

theorem parted_run (h : (start limited).run? events = some x) : x.Parted events :=
  run_induction (parted_start limited) (fun _ hm hy => hm.parted hy) h

theorem Move.groupKilled (h : Move x e y) (he : e ≠ .watcherKills) : y.groupKilled = x.groupKilled := by
  cases h <;> first | rfl | exact absurd rfl he

theorem exists_kill_before_return (h : (start limited).run? events = some x) (ho : x.outcome?.isSome)
    (hown : .watcherReports ∉ events) :
    ∃ before after, events = before ++ .callerReturns :: after ∧ .watcherKills ∈ before := by
  have hcount := returns_run h
  rw [if_pos ho] at hcount
  have hreturns : .callerReturns ∈ events := List.count_pos_iff.mp (by omega)
  obtain ⟨before, after, rfl⟩ := List.append_of_mem hreturns
  refine ⟨before, after, rfl, ?_⟩
  obtain ⟨y, y', hy, hm, -⟩ := exists_move_of_run h
  have hthrough : y.watcher = .through := by
    cases hm with
    | returnsTimeout hw _ _ => exact hw
    | returnsEnding hw _ _ _ => exact hw
  have hparted := parted_run hy
  rcases hparted.behind (by rw [hthrough]; nofun) (by rw [hthrough]; nofun) with hkilled | hreported
  · exact hparted.killed.mp hkilled
  · exact absurd (List.mem_append_left _ hreported) hown

end Execution

namespace Running

variable {σ : Type} {r r' : Running} {x y : Site σ} {m : Running × Site σ} {events : List ExecutionEvent}

/-! ### What happens at the site of a command -/

/-- What may happen at a site from a command at work on, with the events of its execution. Between them, every process
may get a turn, other commands may be started and attended to, and whatever leaves the processes alone may happen:
time passes, and files change. -/
inductive Leads (m : Running × Site σ) : List ExecutionEvent → Running → Site σ → Prop
  | refl : Leads m [] m.1 m.2
  | moves {events : List ExecutionEvent} {r : Running} {x : Site σ} {e : ExecutionEvent} {y : Execution} :
      Leads m events r x → e ∈ r.events x → r.execution.step? e = some y →
      Leads m (events ++ [e]) { r with execution := y } (r.affect x e)
  | turns {events : List ExecutionEvent} {r : Running} {x : Site σ} {pid : Nat} {h : Host} :
      Leads m events r x → x.host.turn? pid = some h → Leads m events r { x with host := h }
  | starts {events : List ExecutionEvent} {r other : Running} {x y : Site σ} {c : Scheduled} :
      Leads m events r x → start c x = .ok (other, y) → Leads m events r y
  | attends {events : List ExecutionEvent} {r : Running} {x : Site σ} (other : Running) (e : ExecutionEvent) :
      Leads m events r x → Leads m events r (other.affect x e)
  | stirs {events : List ExecutionEvent} {r : Running} {x y : Site σ} :
      Leads m events r x → y.host.processes = x.host.processes → y.host.fresh = x.host.fresh →
      Leads m events r y

theorem becomes_affect (r : Running) (x : Site σ) (e : ExecutionEvent) : x.host.Becomes (r.affect x e).host := by
  have hf := Host.Becomes.refl x.host
  cases e with
  | watcherReaps | watcherReapsKilled => exact hf.reap r.pid
  | watcherKills => exact (hf.deliverGroup killSignal r.pid).deliverTo killSignal r.pid
  | _ => exact hf

theorem start_eq_ok {c : Scheduled} (h : start c x = .ok (r, y)) :
    r.execution = .start !c.limit.isZero ∧ r.pid < y.host.fresh ∧ x.host.Becomes y.host := by
  rw [start] at h
  split at h <;> cases h
  exact ⟨rfl, Host.launch_lt_fresh _ _ _, Host.becomes_launch _ _ _⟩

namespace Leads

theorem run (h : Leads m events r x) : m.1.execution.run? events = some r.execution := by
  induction h with
  | refl => rfl
  | moves _ _ hstep ih =>
    rw [Execution.run?_append, ih]
    exact congrArg (fun y => y.bind some) hstep
  | turns _ _ ih | starts _ _ ih | attends _ _ _ ih | stirs _ _ _ ih => exact ih

theorem pid (h : Leads m events r x) : r.pid = m.1.pid := by
  induction h with
  | refl => rfl
  | moves _ _ _ ih | turns _ _ ih | starts _ _ ih | attends _ _ _ ih | stirs _ _ _ ih => exact ih

theorem becomes (h : Leads m events r x) : m.2.host.Becomes x.host := by
  induction h with
  | refl => exact .refl _
  | moves _ _ _ ih => exact ih.trans (becomes_affect _ _ _)
  | turns _ ht ih => exact ih.trans (Host.becomes_turn? ht)
  | starts _ hs ih => exact ih.trans (start_eq_ok hs).2.2
  | attends other e _ ih => exact ih.trans (becomes_affect other _ e)
  | stirs _ hp hn ih => exact ih.of_processes hp (Nat.le_of_eq hn.symm)

theorem deserted (h : Leads m events r x) (hstart : m.1.execution.groupKilled = false)
    (hpid : m.1.pid < m.2.host.fresh) (hkilled : r.execution.groupKilled = true) : x.host.Deserted m.1.pid := by
  induction h with
  | refl => exact absurd hkilled (by simp [hstart])
  | @moves events r x e y hleads _ hstep ih =>
    by_cases he : e = .watcherKills
    · subst he
      rw [affect, hleads.pid]
      exact Host.deserted_of_kill (Nat.lt_of_lt_of_le hpid hleads.becomes.fresh)
    · have hsame := (Execution.step?_eq_some.mp hstep).groupKilled he
      exact (becomes_affect r x e).deserted _ (ih (hsame.symm.trans hkilled))
  | turns _ ht ih => exact (Host.becomes_turn? ht).deserted _ (ih hkilled)
  | starts _ hs ih => exact (start_eq_ok hs).2.2.deserted _ (ih hkilled)
  | attends other e _ ih => exact (becomes_affect other _ e).deserted _ (ih hkilled)
  | stirs _ hp hn ih => exact ((Host.Becomes.refl _).of_processes hp (Nat.le_of_eq hn.symm)).deserted _ (ih hkilled)

/-! ### The course of events that a command takes by itself -/

theorem move? (h : Leads m events r x) (hm : Running.move? (r, x) = some (r', y)) :
    ∃ e, Leads m (events ++ [e]) r' y := by
  rw [Running.move?] at hm
  obtain ⟨e, he, hstep⟩ := List.exists_of_findSome?_eq_some hm
  obtain ⟨execution, hexecution, hk⟩ := Option.map_eq_some_iff.mp hstep
  cases hk
  exact ⟨e, h.moves he hexecution⟩

theorem round? {k : Host} (h : Leads m events r x) (hk : x.host.round? = some k) :
    Leads m events r { x with host := k } :=
  Host.round?_induction (motive := fun k => Leads m events r { x with host := k }) hk
    (fun hleads hturn => hleads.turns hturn) (fun _ hleads => hleads.stirs rfl rfl) h

theorem step? {limit : Option Nat} {k : Running × Site σ} (h : Leads m events r x)
    (hk : actor.step? limit (r, x) = some k) : ∃ more, Leads m (events ++ more) k.1 k.2 := by
  rw [Actor.step?] at hk
  -- the command moves if it can, and then the machine goes on
  have hmoved : ∃ more, Leads m (events ++ more) ((actor.move? (r, x)).getD (r, x)).1
      ((actor.move? (r, x)).getD (r, x)).2 := by
    cases hm : actor.move? (r, x) with
    | none => exact ⟨[], by rwa [List.append_nil]⟩
    | some k =>
      obtain ⟨e, he⟩ := h.move? hm
      exact ⟨[e], he⟩
  obtain ⟨more, hmore⟩ := hmoved
  refine ⟨more, ?_⟩
  generalize actor.move? (r, x) = moved? at hk hmore
  generalize hy : moved?.getD (r, x) = y at hk hmore
  dsimp only at hk
  split at hk
  · rename_i hround
    cases hk
    exact hmore.round? hround
  · split at hk
    · cases hk
      rwa [Option.getD_some.symm.trans hy]
    · obtain ⟨-, hk⟩ := Option.ite_none_left_eq_some.mp hk
      cases hk
      exact hmore.stirs rfl rfl
    · cases hk

theorem runUntil (goal : Running × Site σ → Bool) (limit : Option Nat) (n : Nat) {k : Running × Site σ}
    (h : Leads m events k.1 k.2) :
    ∃ more, Leads m (events ++ more) (actor.runUntil goal limit n k).2.1 (actor.runUntil goal limit n k).2.2 := by
  induction n generalizing events k with
  | zero => exact ⟨[], by rwa [List.append_nil]⟩
  | succ n ih =>
    rw [Actor.runUntil]
    split
    · exact ⟨[], by rwa [List.append_nil]⟩
    split
    · exact ⟨[], by rwa [List.append_nil]⟩
    split
    · rename_i hstep
      obtain ⟨first, hfirst⟩ := h.step? hstep
      obtain ⟨more, hmore⟩ := ih hfirst
      exact ⟨first ++ more, by rwa [← List.append_assoc]⟩
    · exact ⟨[], by rw [List.append_nil]; exact h.stirs rfl rfl⟩

end Leads

/-- To start a command and wait for it is one of the courses that events may take from its start on. -/
theorem exists_leads_carryOut {c : Scheduled} (hstart : start c x = .ok m) :
    ∃ events r, Leads m events r (carryOut c x).2 ∧
      (carryOut c x).1 = r.result?.getD (.error (.timeout c.command c.limit)) := by
  obtain ⟨events, hleads⟩ := (Leads.refl (m := m)).runUntil (fun m => m.1.execution.outcome?.isSome) none
    Actor.patience
  rw [List.nil_append] at hleads
  rw [carryOut, hstart]
  exact ⟨events, _, hleads, rfl⟩

/-- A command that comes to a timeout was killed with its whole group before the caller returned exactly if no end of it
is reported, and then no process of the group is alive from that time on, whatever happens at the site. If an end is
reported, the group is not killed at all. -/
theorem timeout_kills_group_unless_end_is_reported {c : Scheduled} {x₀ y₀ : Site σ} {r₀ : Running}
    (hstart : start c x₀ = .ok (r₀, y₀)) (hleads : Leads (r₀, y₀) events r x)
    (ho : r.execution.outcome? = some .timeout) :
    ((∃ before after, events = before ++ .callerReturns :: after ∧ .watcherKills ∈ before) ↔
        .watcherReports ∉ events) ∧
      (.watcherReports ∉ events → ∀ p ∈ x.host.processes, p.group = r₀.pid → p.isAlive = false) ∧
      (.watcherReports ∈ events → .watcherKills ∉ events) := by
  obtain ⟨hexecution, hpid, -⟩ := start_eq_ok hstart
  have hrun := hleads.run
  rw [hexecution] at hrun
  have hparted := Execution.parted_run hrun
  have hunkilled (hreported : .watcherReports ∈ events) : .watcherKills ∉ events :=
    fun hkill => hparted.unreported (hparted.killed.mpr hkill) hreported
  refine ⟨⟨?_, Execution.exists_kill_before_return hrun (by rw [ho]; rfl)⟩, fun hown p hp hgroup => ?_, hunkilled⟩
  · rintro ⟨before, after, rfl, hkill⟩ hreported
    exact hunkilled hreported (List.mem_append_left _ hkill)
  · obtain ⟨before, after, rfl, hkill⟩ := Execution.exists_kill_before_return hrun (by rw [ho]; rfl) hown
    have hkilled : r.execution.groupKilled = true := hparted.killed.mpr (List.mem_append_left _ hkill)
    have hnobody := (hleads.deserted (by rw [hexecution]; rfl) hpid hkilled).nobody p hp
    by_contra halive
    exact (hnobody (by simpa using halive)).2 hgroup

/-! ### A command that is killed, and one that ends as its time does -/

/-- A command at work from its start on, at its site. -/
def launched (c : Scheduled) (x : Site σ) : Running × Site σ :=
  let (host, pid, out, err) := x.host.launch x.working (Shell.Interpreter.ofText x.environment c.command)
  let limited := !c.limit.isZero
  let deadline? := if limited then some (x.host.now + c.limit.toNanoseconds) else none
  (⟨c, pid, out, err, deadline?, Execution.start limited⟩, { x with host := host })

theorem start_eq_launched {c : Scheduled} (h : c.command.contains '\x00' = false) :
    start c x = .ok (launched c x) := by
  rw [start, h]
  rfl

/-- A site with one program, which waits. -/
def sleepers : Site Unit :=
  let tree := (Filesystem.Tree.mk []).set ["bin"] .directory
  ⟨.start (tree.set ["bin", "sleep"] (.file 0o755 Utility.mark)), [], [("PATH", "/bin")], 0, (), ""⟩

def brief (command : String) : Scheduled := ⟨command, .ofMilliseconds 300⟩

/-- The command and the site when the command has come to something. -/
def afterwards (command : String) : Running × Site Unit :=
  (actor.runUntil (fun m => m.1.execution.outcome?.isSome) none 20 (launched (brief command) sleepers)).2

theorem exists_leads_afterwards (command : String) :
    ∃ events, Leads (launched (brief command) sleepers) events (afterwards command).1 (afterwards command).2 := by
  rw [afterwards]
  exact Leads.refl.runUntil (fun m => m.1.execution.outcome?.isSome) none 20

/-- A process that a command leaves in the background is dead when the command has come to a timeout. -/
theorem background_process_dies_at_timeout :
    ∃ m events r x, start (brief "sleep 2 & sleep 9") sleepers = .ok m ∧ Leads m events r x ∧
      r.execution.outcome? = some .timeout ∧ (∃ p ∈ x.host.processes, p.parent = m.1.pid ∧ p.group = m.1.pid) ∧
      ∀ p ∈ x.host.processes, p.group = m.1.pid → p.isAlive = false := by
  have hstart : start (brief "sleep 2 & sleep 9") sleepers = .ok _ := start_eq_launched (by simp [brief])
  obtain ⟨events, hleads⟩ := exists_leads_afterwards "sleep 2 & sleep 9"
  obtain ⟨ho, hkilled, hchild⟩ : (afterwards "sleep 2 & sleep 9").1.execution.outcome? = some .timeout ∧
      (afterwards "sleep 2 & sleep 9").1.execution.groupKilled = true ∧
      (afterwards "sleep 2 & sleep 9").2.host.processes.any fun p =>
        p.parent = (launched (brief "sleep 2 & sleep 9") sleepers).1.pid &&
          p.group = (launched (brief "sleep 2 & sleep 9") sleepers).1.pid := by decide +kernel
  have hown := (Execution.parted_run hleads.run).unreported hkilled
  obtain ⟨-, hnobody, -⟩ := timeout_kills_group_unless_end_is_reported hstart hleads ho
  refine ⟨_, _, _, _, hstart, hleads, ho, ?_, hnobody hown⟩
  simpa using hchild

/-- The end of this command comes between the end of its time and the kill that is asked for. The watcher takes up the end,
and a process of the group is alive when the command has come to a timeout. -/
theorem background_process_outlives_timeout :
    ∃ m events r x, start (brief "sleep 2 & sleep 0.29997") sleepers = .ok m ∧ Leads m events r x ∧
      r.execution.outcome? = some .timeout ∧ .watcherKills ∉ events ∧
      ∃ p ∈ x.host.processes, p.group = m.1.pid ∧ p.isAlive = true := by
  have hstart : start (brief "sleep 2 & sleep 0.29997") sleepers = .ok _ := start_eq_launched (by simp [brief])
  obtain ⟨events, hleads⟩ := exists_leads_afterwards "sleep 2 & sleep 0.29997"
  obtain ⟨ho, hunkilled, hchild⟩ : (afterwards "sleep 2 & sleep 0.29997").1.execution.outcome? = some .timeout ∧
      (afterwards "sleep 2 & sleep 0.29997").1.execution.groupKilled = false ∧
      (afterwards "sleep 2 & sleep 0.29997").2.host.processes.any fun p =>
        p.group = (launched (brief "sleep 2 & sleep 0.29997") sleepers).1.pid && p.isAlive := by decide +kernel
  have hkill : .watcherKills ∉ events := by
    rw [← (Execution.parted_run hleads.run).killed, hunkilled]
    simp
  refine ⟨_, _, _, _, hstart, hleads, ho, hkill, ?_⟩
  simpa using hchild

end Running

end Stencil.Upkeep
