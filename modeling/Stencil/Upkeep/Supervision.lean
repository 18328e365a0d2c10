import Stencil.Upkeep.Keeper

set_option autoImplicit false
set_option relaxedAutoImplicit false

/-!
One keeper is at work until it is told to stop, and a new one may take its place. The new one is built while the
old one goes on; it starts when the old one has come to its end. If it cannot be built, nothing changes.
-/

namespace Stencil.Upkeep

inductive Control
  | reload
  | stop
deriving DecidableEq, Repr

/-- What a supervisor is doing: it listens, has a new keeper built, waits for the current one to make room for
the next, waits for it to end, or is through. -/
inductive Duty (κ : Type)
  | listening
  | building
  | handingOver (next : κ)
  | ending
  | ended

/-- The keepers that are done, in order, the current one, what the supervisor does, what it was asked for and has
not seen yet, whether nobody will ask any more, and how often a new keeper was to be built. -/
structure Supervision (κ : Type) where
  retired : List κ
  current : κ
  duty : Duty κ
  inbox : List Control
  isClosed : Bool
  calls : Nat

structure Handling (κ : Type) where
  stop : κ → κ
  isDone : κ → Bool

namespace Supervision

variable {κ σ : Type}

def start (first : κ) : Supervision κ := ⟨[], first, .listening, [], false, 0⟩

/-- Asks for something. Nobody hears it after the end. -/
def ask (s : Supervision κ) (c : Control) : Supervision κ := { s with inbox := s.inbox ++ [c] }

def close (s : Supervision κ) : Supervision κ := { s with isClosed := true }

def built (s : Supervision κ) : List κ :=
  s.retired ++ s.current :: match s.duty with
    | .handingOver next => [next]
    | _ => []

def isOver (s : Supervision κ) : Bool :=
  match s.duty with
  | .ended => true
  | _ => false

def isSettled (s : Supervision κ) : Bool :=
  match s.duty with
  | .building | .handingOver _ => false
  | _ => true

def wind (h : Handling κ) (s : Supervision κ) : Supervision κ :=
  { s with current := h.stop s.current, duty := .ending }

/-- The next move of the supervisor itself. The factory is called with the number of the call. -/
def turn? (h : Handling κ) (factory : Nat → Option κ) (s : Supervision κ) : Option (Supervision κ) :=
  match s.duty with
  | .listening =>
    match s.inbox with
    | .reload :: rest => some { s with inbox := rest, calls := s.calls + 1, duty := .building }
    | .stop :: rest => some ({ s with inbox := rest }.wind h)
    | [] => if s.isClosed then some (s.wind h) else none
  | .building =>
    match factory s.calls with
    | some next => some { s with current := h.stop s.current, duty := .handingOver next }
    | none => some { s with duty := .listening }
  | .handingOver next =>
    if h.isDone s.current then
      some { s with retired := s.retired ++ [s.current], current := next, duty := .listening }
    else none
  | .ending => if h.isDone s.current then some { s with duty := .ended } else none
  | .ended => none

/-- The supervisor and the current keeper, as one actor. -/
def actor (h : Handling κ) (factory : Nat → Site σ → Option κ) (a : Actor κ σ) :
    Actor (Supervision κ) σ where
  move? := fun (s, x) =>
    match s.turn? h (fun n => factory n x) with
    | some s => some (s, x)
    | none => (a.move? (s.current, x)).map fun (k, x) => ({ s with current := k }, x)
  due? s := a.due? s.current

end Supervision

def Keeper.handling {ρ σ : Type} (l : Link ρ σ) : Handling (Keeper ρ) := ⟨Keeper.stop l, Keeper.isDone⟩

end Stencil.Upkeep
