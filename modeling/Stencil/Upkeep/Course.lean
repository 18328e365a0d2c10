import Stencil.Upkeep.Site

set_option autoImplicit false
set_option relaxedAutoImplicit false

/-!
The course of events at a site: who is at work there makes a move, every process gets a turn, and time passes
to the next moment at which something can happen.
-/

namespace Stencil.Upkeep

/-- Something at work at a site: the move it makes, if it can make one, and the time at which it will. -/
structure Actor (κ σ : Type) where
  move? : κ × Site σ → Option (κ × Site σ)
  due? : κ → Option Nat

namespace Actor

variable {κ σ : Type}

def idle : Actor Unit σ := ⟨fun _ => none, fun _ => none⟩

/-- The next time at which a process or the actor can go on. -/
def nextTime? (a : Actor κ σ) (x : κ × Site σ) : Option Nat :=
  match x.2.host.nextWake?, a.due? x.1 with
  | some s, some t => some (min s t)
  | some s, none => some s
  | none, t => t

/-- What happens next, up to a time. Nothing does if all wait for something that no time brings. -/
def step? (a : Actor κ σ) (limit : Option Nat) (x : κ × Site σ) : Option (κ × Site σ) :=
  let moved := a.move? x
  let y := moved.getD x
  match y.2.host.round? with
  | some h => some (y.1, { y.2 with host := h })
  | none =>
    match moved, a.nextTime? y with
    | some y, _ => some y
    | none, some t =>
      let t := match limit with
        | some l => min t l
        | none => t
      if t ≤ y.2.host.now then none else some (y.1, { y.2 with host := { y.2.host with now := t } })
    | none, none => none

/-- Lets things happen until a goal is reached, and tells whether it was. It is not when the time is over,
which then has passed, or when nothing more can happen. -/
def runUntil (a : Actor κ σ) (goal : κ × Site σ → Bool) (limit : Option Nat) :
    Nat → κ × Site σ → Bool × κ × Site σ
  | 0, x => (false, x)
  | n + 1, x =>
    if goal x then (true, x)
    else if limit.any (· ≤ x.2.host.now) then (false, x)
    else
      match a.step? limit x with
      | some y => runUntil a goal limit n y
      | none =>
        (false, x.1, { x.2 with host := { x.2.host with now := limit.getD x.2.host.now } })

def patience : Nat := 1000000000

/-- Lets things happen until a goal is reached or a length of time, in nanoseconds, is over. -/
def runFor (a : Actor κ σ) (goal : κ × Site σ → Bool) (nanoseconds : Nat) (x : κ × Site σ) :
    Bool × κ × Site σ :=
  a.runUntil goal (some (x.2.host.now + nanoseconds)) patience x

end Actor

end Stencil.Upkeep
