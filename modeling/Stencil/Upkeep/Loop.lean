set_option autoImplicit false
set_option relaxedAutoImplicit false

/-!
When rounds begin and end. The first one begins at once; further ones follow the ticks of a clock, if they are
to be repeated. A stop that was asked for is seen between rounds only.
-/

namespace Stencil.Upkeep

/-- Where the loop stands: before the first round, in a round, between rounds that follow a clock, after the
only round, or at its end. -/
inductive LoopPhase
  | idle
  | working
  | resting
  | lingering
  | done
deriving DecidableEq, Repr

/-- A loop of rounds. It tells whether it follows a clock, whether a stop was asked for, and how many rounds
have begun and ended. -/
structure Loop where
  polls : Bool
  stopAsked : Bool
  phase : LoopPhase
  begun : Nat
  ended : Nat
deriving DecidableEq, Repr

/-- What happens to a loop. Looking for a stop and what follows from it happen together. -/
inductive LoopEvent
  | stopAsked
  | starts
  | roundEnds
  | ticks
  | seesStop
deriving DecidableEq, Repr

namespace Loop

def initial (polls : Bool) : Loop := ⟨polls, false, .idle, 0, 0⟩

def askStop (l : Loop) : Loop := { l with stopAsked := true }

def beginRound (l : Loop) : Loop := { l with phase := .working, begun := l.begun + 1 }

/-- What is left after an event, if the event is possible. -/
def step? (l : Loop) : LoopEvent → Option Loop
  | .stopAsked => some l.askStop
  | .starts =>
    match l.phase with
    | .idle => if l.stopAsked then some { l with phase := .done } else some l.beginRound
    | _ => none
  | .roundEnds =>
    match l.phase with
    | .working =>
      some { l with phase := if l.polls then .resting else .lingering, ended := l.ended + 1 }
    | _ => none
  | .ticks =>
    match l.phase with
    | .resting => if l.stopAsked then none else some l.beginRound
    | _ => none
  | .seesStop =>
    match l.phase with
    | .resting | .lingering => if l.stopAsked then some { l with phase := .done } else none
    | _ => none

/-- What is left after several events, if each of them is possible. -/
def run? (l : Loop) (events : List LoopEvent) : Option Loop := events.foldlM step? l

def isDone (l : Loop) : Bool := l.phase = .done

end Loop

end Stencil.Upkeep
