import Stencil.Shell.Interpreter
import Stencil.Upkeep.Course
import Stencil.Upkeep.Execution
import Stencil.Upkeep.Schedule

set_option autoImplicit false
set_option relaxedAutoImplicit false

/-!
A command that runs at a site: a shell reads it, and the parts that watch over it move as soon as they can.
-/

namespace Stencil.Upkeep

open Stencil.Machine

/-- A command at work: its process, the pipes that collect what it writes, and the time at which its limit is
reached. -/
structure Running where
  scheduled : Scheduled
  pid : Nat
  out : Nat
  err : Nat
  deadline? : Option Nat
  execution : Execution

namespace Running

variable {σ : Type}

/-- Starts a command. None is started whose text has an end within. -/
def start (c : Scheduled) (x : Site σ) : Except CommandFault (Running × Site σ) :=
  if c.command.contains '\x00' then .error (.unstartable c.command)
  else
    let (host, pid, out, err) := x.host.launch x.working
      (Shell.Interpreter.ofText x.environment c.command)
    let limited := !c.limit.isZero
    let deadline? := if limited then some (x.host.now + c.limit.toNanoseconds) else none
    .ok (⟨c, pid, out, err, deadline?, Execution.start limited⟩, { x with host := host })

/-- The events that may come next, in the order in which they are tried. -/
def events (r : Running) (x : Site σ) : List ExecutionEvent :=
  let ends := match x.host.ending? r.pid with
    | some e => [ExecutionEvent.childEnds e]
    | none => []
  let misses := if (x.host.process? r.pid).isNone then [ExecutionEvent.watcherMisses] else []
  let fires := if r.deadline?.any (· ≤ x.host.now) then [ExecutionEvent.timerFires] else []
  ends ++ [.watcherReaps] ++ misses ++ [.watcherReports] ++ fires
    ++ [.callerAsks, .watcherKills, .watcherReapsKilled, .watcherHands, .callerReturns]

/-- What an event does at the site. The kill reaches the whole group, and then the process itself in case it is
not in its group any more. -/
def affect (r : Running) (x : Site σ) : ExecutionEvent → Site σ
  | .watcherReaps | .watcherReapsKilled => { x with host := x.host.reap r.pid }
  | .watcherKills =>
    { x with host := (x.host.deliverGroup killSignal r.pid).deliverTo killSignal r.pid }
  | _ => x

def move? (m : Running × Site σ) : Option (Running × Site σ) :=
  let (r, x) := m
  (r.events x).findSome? fun e =>
    (r.execution.step? e).map fun y => ({ r with execution := y }, r.affect x e)

def due? (r : Running) : Option Nat :=
  if r.execution.caller = .racing && r.execution.outcome? = none then r.deadline? else none

def actor : Actor Running σ := ⟨move?, due?⟩

def result? (r : Running) : Option (Except CommandFault Unit) :=
  r.execution.outcome?.map fun o => o.result r.scheduled.command r.scheduled.limit

/-- Starts a command and waits for what it comes to. One that never ends is given up. -/
def carryOut (c : Scheduled) (x : Site σ) : Except CommandFault Unit × Site σ :=
  match start c x with
  | .error f => (.error f, x)
  | .ok m =>
    let (_, r, x) := actor.runUntil (fun m => m.1.execution.outcome?.isSome) none Actor.patience m
    (r.result?.getD (.error (.timeout c.command c.limit)), x)

def isHeard (r : Running) (x : Site σ) : Bool :=
  x.host.isOpen (.writeEnd r.out) || x.host.isOpen (.writeEnd r.err)

end Running

end Stencil.Upkeep
