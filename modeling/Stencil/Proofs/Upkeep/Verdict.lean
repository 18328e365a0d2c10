import Mathlib.Tactic.Common
import Stencil.Proofs.Run
import Stencil.Upkeep.Running

set_option autoImplicit false
set_option relaxedAutoImplicit false

/-!
What a command comes to, in whatever order its process, the watcher over it, the timer and the caller move.

The moves are taken apart once, into a relation with a constructor for each way in which an event is possible.
From it follow what every move keeps and, by induction on the events, what holds after every row of events.

Main statement: however the parts interleave, the caller is told one outcome. It is a timeout if and only if the
timer reported to the verdict first, and otherwise it is how the process ended or that the wait for it failed. A
timeout is told only when nothing is left of the process, the kill comes only while something is, and without a
limit there is no timeout.
-/

namespace Stencil.Upkeep

open Stencil.Machine Stencil.Time

def Child.isReaped : Child → Bool
  | .reaped _ => true
  | _ => false

/-- What is known of the end of a process has been told by events. -/
def Child.IsTold (events : List ExecutionEvent) : Child → Prop
  | .running => True
  | .exited d | .reaped (some d) => .childEnds d ∈ events
  | .reaped none => .watcherMisses ∈ events

theorem Child.IsTold.append {events : List ExecutionEvent} {c : Child} (h : c.IsTold events)
    (more : List ExecutionEvent) : c.IsTold (events ++ more) := by
  obtain _ | d | (_ | d) := c
  · trivial
  all_goals exact List.mem_append_left more h

def ExecutionEvent.report? : ExecutionEvent → Option Verdict
  | .watcherReports => some .exited
  | .timerFires => some .timedOut
  | _ => none

namespace Execution

variable {x y : Execution} {e : ExecutionEvent} {events : List ExecutionEvent}

/-! ### The moves -/

/-- The moves, one constructor for each way in which an event is possible. -/
inductive Move (x : Execution) : ExecutionEvent → Execution → Prop
  | ends (e : Ending) : x.child = .running → Move x (.childEnds e) { x with child := .exited e }
  | reaps {e : Ending} : x.watcher = .watching → x.child = .exited e →
      Move x .watcherReaps { x with child := .reaped (some e), watcher := .reporting }
  | misses : x.watcher = .watching → x.child.isReaped = false →
      Move x .watcherMisses { x with child := .reaped none, watcher := .reporting }
  | missesKilled : x.watcher = .killing → x.child.isReaped = false →
      Move x .watcherMisses { x with child := .reaped none, watcher := .handing }
  | reports : x.watcher = .reporting →
      Move x .watcherReports { x with verdict? := some (x.verdict?.getD .exited), watcher := .handing }
  | fires : x.limited = true → x.caller = .racing → x.outcome? = none → x.verdict? ≠ some .exited →
      Move x .timerFires { x with verdict? := some .timedOut, caller := .asking }
  | firesLate : x.limited = true → x.caller = .racing → x.outcome? = none → x.verdict? = some .exited →
      Move x .timerFires { x with caller := .late }
  | asks : x.caller = .asking → Move x .callerAsks { x with caller := .overdue, killAsked := true }
  | kills : x.watcher = .watching → x.killAsked = true →
      Move x .watcherKills { x with watcher := .killing, groupKilled := true }
  | reapsKilled {e : Ending} : x.watcher = .killing → x.child = .exited e →
      Move x .watcherReapsKilled { x with child := .reaped (some e), watcher := .handing }
  | hands : x.watcher = .handing → Move x .watcherHands { x with watcher := .through }
  | returnsTimeout : x.watcher = .through → x.outcome? = none → x.caller = .overdue →
      Move x .callerReturns { x with outcome? := some .timeout }
  | returnsEnding {e : Option Ending} : x.watcher = .through → x.outcome? = none →
      (x.caller = .racing ∨ x.caller = .late) → x.child = .reaped e →
      Move x .callerReturns { x with outcome? := some (.ended e) }

theorem move_of_step? (h : x.step? e = some y) : Move x e y := by
  obtain ⟨limited, child, watcher, caller, verdict?, killAsked, groupKilled, outcome?⟩ := x
  cases e with
  | childEnds e =>
    cases child <;> cases h
    exact .ends e rfl
  | watcherReaps =>
    cases watcher <;> cases child <;> cases h
    exact .reaps rfl rfl
  | watcherMisses =>
    cases watcher <;> cases child <;> cases h
    · exact .misses rfl rfl
    · exact .misses rfl rfl
    · exact .missesKilled rfl rfl
    · exact .missesKilled rfl rfl
  | watcherReports =>
    cases watcher <;> cases h
    exact .reports rfl
  | timerFires =>
    cases limited <;> cases caller <;> cases outcome? <;> cases h
    obtain _ | _ | _ := verdict?
    · exact .fires rfl rfl rfl nofun
    · exact .firesLate rfl rfl rfl rfl
    · exact .fires rfl rfl rfl nofun
  | callerAsks =>
    cases caller <;> cases h
    exact .asks rfl
  | watcherKills =>
    cases watcher <;> cases killAsked <;> cases h
    exact .kills rfl rfl
  | watcherReapsKilled =>
    cases watcher <;> cases child <;> cases h
    exact .reapsKilled rfl rfl
  | watcherHands =>
    cases watcher <;> cases h
    exact .hands rfl
  | callerReturns =>
    cases watcher <;> cases outcome? <;> cases caller <;> cases child <;> cases h
    · exact .returnsEnding rfl rfl (.inl rfl) rfl
    · exact .returnsEnding rfl rfl (.inr rfl) rfl
    · exact .returnsTimeout rfl rfl rfl
    · exact .returnsTimeout rfl rfl rfl
    · exact .returnsTimeout rfl rfl rfl

theorem step?_of_move (h : Move x e y) : x.step? e = some y := by
  cases h with
  | misses hw hc | missesKilled hw hc =>
    simp only [step?, hw]
    cases hchild : x.child with
    | reaped _ => simp [hchild, Child.isReaped] at hc
    | _ => rfl
  | fires hl hc ho hv =>
    have hsettled : x.verdict?.getD .timedOut = .timedOut := by
      rcases hverdict : x.verdict? with _ | _ | _
      · rfl
      · exact absurd hverdict hv
      · rfl
    simp [step?, settle, hl, hc, ho, hsettled]
  | returnsEnding hw ho hc he =>
    rcases hc with hc | hc <;> simp [step?, hw, ho, hc, he]
  | _ => simp_all [step?, settle]

theorem step?_eq_some : x.step? e = some y ↔ Move x e y := ⟨move_of_step?, step?_of_move⟩

namespace Move

theorem limited (h : Move x e y) : y.limited = x.limited := by cases h <;> rfl

theorem verdict (h : Move x e y) : y.verdict? = x.verdict?.or e.report? := by
  cases h with
  | reports => cases x.verdict? <;> rfl
  | fires _ _ _ hv =>
    obtain hv | hv | hv : x.verdict? = none ∨ x.verdict? = some .exited ∨ x.verdict? = some .timedOut := by
      rcases x.verdict? with _ | _ | _ <;> simp
    all_goals simp_all [ExecutionEvent.report?]
  | firesLate _ _ _ hv => simp [hv]
  | _ => exact (Option.or_none).symm

theorem outcome (h : Move x e y) {o : Outcome} (ho : x.outcome? = some o) : y.outcome? = some o := by
  cases h <;> simp_all

theorem returns (h : Move x e y) :
    if e = .callerReturns then x.outcome? = none ∧ y.outcome?.isSome else y.outcome? = x.outcome? := by
  cases h <;> simp_all

theorem isTold (h : Move x e y) (hx : x.child.IsTold events) : y.child.IsTold (events ++ [e]) := by
  have hlast : e ∈ events ++ [e] := List.mem_append_right events List.mem_cons_self
  have hkept := hx.append [e]
  cases h with
  | ends d _ => exact hlast
  | misses | missesKilled => exact hlast
  | reaps _ hc | reapsKilled _ hc => rwa [hc] at hkept
  | _ => exact hkept

end Move

/-! ### What a run keeps -/

def rank (x : Execution) : Nat :=
  (match x.child with
    | .running => 2
    | .exited _ => 1
    | .reaped _ => 0) +
  (match x.watcher with
    | .watching => 3
    | .reporting | .killing => 2
    | .handing => 1
    | .through => 0) +
  (match x.caller with
    | .racing => 2
    | .asking => 1
    | .late | .overdue => 0) +
  if x.outcome?.isSome then 0 else 1

theorem Move.rank_lt (h : Move x e y) : y.rank < x.rank := by
  cases h <;> grind [rank, Child.isReaped]

/-- How the parts stand to each other at any time. -/
structure Consistent (x : Execution) : Prop where
  watched : x.child.isReaped = false ↔ x.watcher = .watching ∨ x.watcher = .killing
  asked : x.killAsked = true → x.caller = .overdue
  overdue : x.caller = .asking ∨ x.caller = .overdue ↔ x.verdict? = some .timedOut
  unlimited : x.limited = false → x.caller = .racing
  timeout : x.outcome? = some .timeout → x.watcher = .through ∧ x.caller = .overdue
  ended (d : Option Ending) : x.outcome? = some (.ended d) →
    x.watcher = .through ∧ (x.caller = .racing ∨ x.caller = .late) ∧ x.child = .reaped d

theorem consistent_start (limited : Bool) : (start limited).Consistent := by
  constructor <;> simp [start, Child.isReaped]

theorem getD_exited_eq_timedOut (v : Option Verdict) : v.getD .exited = .timedOut ↔ v = some .timedOut := by
  rcases v with _ | _ | _ <;> simp

theorem Move.consistent (h : Move x e y) (hx : x.Consistent) : y.Consistent := by
  obtain ⟨hwatched, hasked, hoverdue, hunlimited, htimeout, hended⟩ := hx
  cases h <;> constructor <;> simp_all [Child.isReaped, getD_exited_eq_timedOut]

theorem Consistent.exists_move (hx : x.Consistent) (ho : x.outcome? = none) : ∃ e y, Move x e y := by
  cases hchild : x.child with
  | running => exact ⟨_, _, .ends (.code 0) hchild⟩
  | exited d =>
    have hreaped : x.child.isReaped = false := by rw [hchild]; rfl
    rcases hx.watched.mp hreaped with hw | hw
    · exact ⟨_, _, .reaps hw hchild⟩
    · exact ⟨_, _, .reapsKilled hw hchild⟩
  | reaped d =>
    have hreaped : ¬(x.watcher = .watching ∨ x.watcher = .killing) := by
      rw [← hx.watched, hchild]
      nofun
    cases hw : x.watcher with
    | watching => exact absurd (.inl hw) hreaped
    | killing => exact absurd (.inr hw) hreaped
    | reporting => exact ⟨_, _, .reports hw⟩
    | handing => exact ⟨_, _, .hands hw⟩
    | through =>
      cases hc : x.caller with
      | racing => exact ⟨_, _, .returnsEnding hw ho (.inl hc) hchild⟩
      | late => exact ⟨_, _, .returnsEnding hw ho (.inr hc) hchild⟩
      | asking => exact ⟨_, _, .asks hc⟩
      | overdue => exact ⟨_, _, .returnsTimeout hw ho hc⟩

theorem run?_append (x : Execution) (before after : List ExecutionEvent) :
    x.run? (before ++ after) = (x.run? before).bind fun y => y.run? after :=
  List.foldlM_append

theorem exists_move_of_run {before after : List ExecutionEvent} {z : Execution}
    (h : x.run? (before ++ e :: after) = some z) :
    ∃ y y', x.run? before = some y ∧ Move y e y' ∧ y'.run? after = some z := by
  obtain ⟨y, y', hy, hstep, hafter⟩ := Run.exists_step_of_run h
  exact ⟨y, y', hy, step?_eq_some.mp hstep, hafter⟩

theorem run_induction {motive : List ExecutionEvent → Execution → Prop} (hstart : motive [] x)
    (hmove : ∀ {events e y z}, x.run? events = some y → Move y e z → motive events y → motive (events ++ [e]) z)
    (h : x.run? events = some y) : motive events y :=
  Run.induction hstart (fun hrun hstep => hmove hrun (step?_eq_some.mp hstep)) h

theorem Consistent.run (hx : x.Consistent) (h : x.run? events = some y) : y.Consistent :=
  run_induction hx (fun _ hm hy => hm.consistent hy) h

theorem verdict_run {limited : Bool} (h : (start limited).run? events = some x) :
    x.verdict? = events.findSome? ExecutionEvent.report? := by
  refine run_induction (motive := fun events x => x.verdict? = events.findSome? ExecutionEvent.report?) rfl ?_ h
  intro events e y z _ hm hy
  rw [hm.verdict, hy, List.findSome?_append, List.findSome?_singleton]

theorem limited_run {limited : Bool} (h : (start limited).run? events = some x) : x.limited = limited :=
  run_induction (motive := fun _ x => x.limited = limited) rfl (fun _ hm hy => hm.limited.trans hy) h

theorem isTold_run {limited : Bool} (h : (start limited).run? events = some x) : x.child.IsTold events :=
  run_induction (motive := fun events x => x.child.IsTold events) (by exact trivial) (fun _ hm hy => hm.isTold hy) h

theorem returns_run {limited : Bool} (h : (start limited).run? events = some x) :
    events.count .callerReturns = if x.outcome?.isSome then 1 else 0 := by
  refine run_induction (motive := fun events x =>
    events.count .callerReturns = if x.outcome?.isSome then 1 else 0) rfl ?_ h
  intro events e y z _ hm hy
  have hreturns := hm.returns
  rw [List.count_append, hy, List.count_singleton]
  split at hreturns
  · simp_all
  · simp_all

theorem outcome_run (h : x.run? events = some y) {o : Outcome} (ho : x.outcome? = some o) :
    y.outcome? = some o :=
  run_induction (motive := fun _ y => y.outcome? = some o) ho (fun _ hm hy => hm.outcome hy) h

theorem length_run (h : x.run? events = some y) : events.length + y.rank ≤ x.rank := by
  refine run_induction (motive := fun events y => events.length + y.rank ≤ x.rank) (by simp) ?_ h
  intro events e y z _ hm hy
  have hlt := hm.rank_lt
  rw [List.length_append, List.length_singleton]
  omega

theorem kill_run {limited : Bool} {before after : List ExecutionEvent}
    (h : (start limited).run? (before ++ .watcherKills :: after) = some x) :
    ∃ y, (start limited).run? before = some y ∧ y.child.isReaped = false := by
  obtain ⟨y, y', hy, hm, -⟩ := exists_move_of_run h
  have hwatched := ((consistent_start limited).run hy).watched
  cases hm with
  | kills hw _ => exact ⟨y, hy, hwatched.mpr (.inl hw)⟩

theorem Consistent.timeout_iff (hx : x.Consistent) :
    x.outcome? = some .timeout ↔ x.outcome?.isSome ∧ x.verdict? = some .timedOut := by
  constructor
  · intro ho
    exact ⟨by rw [ho]; rfl, hx.overdue.mp (.inr (hx.timeout ho).2)⟩
  · rintro ⟨hsome, hv⟩
    obtain ⟨o, ho⟩ := Option.isSome_iff_exists.mp hsome
    cases o with
    | timeout => exact ho
    | ended d =>
      obtain ⟨-, hc, -⟩ := hx.ended d ho
      rcases hx.overdue.mpr hv with h | h <;> rcases hc with hc | hc <;> cases h.symm.trans hc

theorem Consistent.reaped_of_through (hx : x.Consistent) (hw : x.watcher = .through) : x.child.isReaped = true := by
  rw [← Bool.not_eq_false, hx.watched, hw]
  nofun

/-- However its process, the watcher, the timer and the caller interleave: the caller is told one outcome, for good,
and as long as it is not, some part can move, but not for ever. The outcome is a timeout if and only if the timer was
the first to report. Any other is how the process ended, or that the wait for it failed. Nothing is left of the
process when a timeout is told, and the kill comes only while something is. Without a limit, no timeout is told. -/
theorem one_outcome_is_told (limit : Duration) (h : (start !limit.isZero).run? events = some x) :
    (events.count .callerReturns = if x.outcome?.isSome then 1 else 0) ∧
    (∀ o more y, x.outcome? = some o → x.run? more = some y → y.outcome? = some o) ∧
    (x.outcome? = none → ∃ e y, x.step? e = some y) ∧ events.length ≤ 8 ∧
    (x.outcome? = some .timeout ↔
      x.outcome?.isSome ∧ events.findSome? ExecutionEvent.report? = some .timedOut) ∧
    (∀ d, x.outcome? = some (.ended d) → x.child = .reaped d ∧ match d with
      | some e => .childEnds e ∈ events
      | none => .watcherMisses ∈ events) ∧
    (x.outcome? = some .timeout → x.child.isReaped) ∧
    (∀ before after, events = before ++ .watcherKills :: after →
      ∃ y, (start !limit.isZero).run? before = some y ∧ y.child.isReaped = false) ∧
    (limit.isZero → x.outcome? ≠ some .timeout) := by
  have hx := (consistent_start !limit.isZero).run h
  refine ⟨returns_run h, ?stays, ?moves, ?ends, ?first, ?own, ?reaped, ?kill, ?unlimited⟩
  case stays => exact fun o more y ho hmore => outcome_run hmore ho
  case moves =>
    intro ho
    obtain ⟨e, y, hm⟩ := hx.exists_move ho
    exact ⟨e, y, step?_eq_some.mpr hm⟩
  case ends => exact Nat.le_trans (Nat.le_add_right _ _) (length_run h)
  case first => rw [hx.timeout_iff, verdict_run h]
  case own =>
    intro d ho
    obtain ⟨-, -, hchild⟩ := hx.ended d ho
    have htold := isTold_run h
    rw [hchild] at htold
    cases d with
    | some e => exact ⟨hchild, htold⟩
    | none => exact ⟨hchild, htold⟩
  case reaped => exact fun ho => hx.reaped_of_through (hx.timeout ho).1
  case kill =>
    rintro before after rfl
    exact kill_run h
  case unlimited =>
    intro hzero ho
    have hlimited : x.limited = false := by rw [limited_run h, hzero]; rfl
    cases (hx.unlimited hlimited).symm.trans (hx.timeout ho).2

/-- The timer comes first, then the process ends by itself, and only then the kill is asked for. -/
theorem end_before_kill_is_timeout :
    ∃ x, (start !(Duration.ofMilliseconds 300).isZero).run? [.timerFires, .childEnds (.code 0), .callerAsks,
        .watcherKills, .watcherReapsKilled, .watcherHands, .callerReturns] = some x ∧
      x.outcome? = some .timeout ∧ x.child.isReaped := by
  have hrun : (start !(Duration.ofMilliseconds 300).isZero).run? [.timerFires, .childEnds (.code 0), .callerAsks,
    .watcherKills, .watcherReapsKilled, .watcherHands, .callerReturns] = some _ := rfl
  obtain ⟨-, -, -, -, hfirst, -, hreaped, -⟩ := one_outcome_is_told (.ofMilliseconds 300) hrun
  have htimeout := hfirst.mpr ⟨rfl, rfl⟩
  exact ⟨_, hrun, htimeout, hreaped htimeout⟩

end Execution

end Stencil.Upkeep
