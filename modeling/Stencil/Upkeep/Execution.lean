import Stencil.Machine.Signal
import Stencil.Time.Duration

set_option autoImplicit false
set_option relaxedAutoImplicit false

/-!
How a command is carried out under a time limit. A watcher owns the process and waits for its end or for a
request to kill it; a timer makes that request. Both report to one verdict, and the first report stands.

Every move of the parts is a transition of its own, so that the moves may come in any order in which each of
them is possible.
-/

namespace Stencil.Upkeep

open Stencil.Machine Stencil.Time

/-- The process of a command: it runs, it has ended, or nothing is left of it. How it ended is known then, unless
the wait for it failed. -/
inductive Child
  | running
  | exited (ending : Ending)
  | reaped (ending? : Option Ending)
deriving DecidableEq, Repr

inductive Verdict
  | exited
  | timedOut
deriving DecidableEq, Repr

/-- What the watcher does: it watches for the end and for a request, reports the end that it saw, waits for the
end after it has killed, hands over how the process ended, or is through. -/
inductive Watcher
  | watching
  | reporting
  | killing
  | handing
  | through
deriving DecidableEq, Repr

/-- What the caller does: it waits for the end or the timer, waits for the end because the timer came too late,
is about to ask for the kill because the time is over, or has asked and waits for the end. -/
inductive Caller
  | racing
  | late
  | asking
  | overdue
deriving DecidableEq, Repr

/-- What carrying out a command came to. No ending is known where the wait for it failed. -/
inductive Outcome
  | ended (ending? : Option Ending)
  | timeout
deriving DecidableEq, Repr

structure Execution where
  limited : Bool
  child : Child
  watcher : Watcher
  caller : Caller
  verdict? : Option Verdict
  killAsked : Bool
  groupKilled : Bool
  outcome? : Option Outcome
deriving DecidableEq, Repr

inductive ExecutionEvent
  | childEnds (ending : Ending)
  | watcherReaps
  | watcherMisses
  | watcherReports
  | timerFires
  | callerAsks
  | watcherKills
  | watcherReapsKilled
  | watcherHands
  | callerReturns
deriving DecidableEq, Repr

namespace Execution

def start (limited : Bool) : Execution := ⟨limited, .running, .watching, .racing, none, false, false, none⟩

/-- Reports to the verdict. The first report stands. -/
def settle (x : Execution) (v : Verdict) : Execution := { x with verdict? := some (x.verdict?.getD v) }

/-- What is left after a move, if the move is possible. A wait fails only if nothing is left to wait for. -/
def step? (x : Execution) : ExecutionEvent → Option Execution
  | .childEnds e =>
    match x.child with
    | .running => some { x with child := .exited e }
    | _ => none
  | .watcherReaps =>
    match x.watcher, x.child with
    | .watching, .exited e => some { x with child := .reaped (some e), watcher := .reporting }
    | _, _ => none
  | .watcherMisses =>
    match x.watcher, x.child with
    | _, .reaped _ => none
    | .watching, _ => some { x with child := .reaped none, watcher := .reporting }
    | .killing, _ => some { x with child := .reaped none, watcher := .handing }
    | _, _ => none
  | .watcherReports =>
    if x.watcher = .reporting then some { x.settle .exited with watcher := .handing } else none
  | .timerFires =>
    if x.limited && x.caller = .racing && x.outcome? = none then
      let y := x.settle .timedOut
      some { y with caller := if y.verdict? = some .timedOut then .asking else .late }
    else none
  | .callerAsks => if x.caller = .asking then some { x with caller := .overdue, killAsked := true } else none
  | .watcherKills =>
    if x.watcher = .watching && x.killAsked then some { x with watcher := .killing, groupKilled := true }
    else none
  | .watcherReapsKilled =>
    match x.watcher, x.child with
    | .killing, .exited e => some { x with child := .reaped (some e), watcher := .handing }
    | _, _ => none
  | .watcherHands => if x.watcher = .handing then some { x with watcher := .through } else none
  | .callerReturns =>
    if x.watcher = .through && x.outcome? = none then
      match x.caller, x.child with
      | .asking, _ => none
      | .overdue, _ => some { x with outcome? := some .timeout }
      | _, .reaped e => some { x with outcome? := some (.ended e) }
      | _, _ => none
    else none

/-- What is left after several moves, if each of them is possible. -/
def run? (x : Execution) (events : List ExecutionEvent) : Option Execution := events.foldlM step? x

end Execution

/-- Why a command did not succeed. The first is that there was nothing that could be started; no ending is known
where the wait for it failed. -/
inductive CommandFault
  | unstartable (command : String)
  | timeout (command : String) (limit : Duration)
  | ended (command : String) (ending? : Option Ending)
deriving DecidableEq, Repr

def CommandFault.isTimeout : CommandFault → Bool
  | .timeout _ _ => true
  | _ => false

def CommandFault.message : CommandFault → String
  | .unstartable c => "can't start command '" ++ c ++ "'"
  | .timeout c d => "command '" ++ c ++ "' timed out after " ++ d.text
  | .ended c (some e) => "command '" ++ c ++ "' failed: " ++ e.text
  | .ended c none => "can't wait for command '" ++ c ++ "'"

/-- What an outcome means for a command: only an end with success is one. -/
def Outcome.result (command : String) (limit : Duration) : Outcome → Except CommandFault Unit
  | .ended e => if e.any Ending.isSuccess then .ok () else .error (.ended command e)
  | .timeout => .error (.timeout command limit)

end Stencil.Upkeep
