import Stencil.Upkeep.Loop
import Stencil.Upkeep.Pipeline
import Stencil.Upkeep.Running

set_option autoImplicit false
set_option relaxedAutoImplicit false

/-!
A keeper does the rounds of a pipeline, as its loop says, one small move after another, so that others at the
site see every state in between.
-/

namespace Stencil.Upkeep

open Stencil.Filesystem

/-- Where a round stands: templates that are left, or commands that are left and the one at work. -/
inductive Stage
  | templates (round : Round) (left : List Binding)
  | commands (found : List (String × Status)) (results : List (String × CommandResult))
      (running? : Option Running) (left : List Scheduled)

/-- A keeper: its pipeline, its loop, the round that it is in, what its last round did, and the time of the next
tick. -/
structure Keeper (ρ : Type) where
  pipeline : Pipeline ρ
  loop : Loop
  stage? : Option Stage
  report? : Option Report
  due : Nat

namespace Keeper

variable {ρ σ : Type}

def ofPipeline (p : Pipeline ρ) : Keeper ρ := ⟨p, Loop.initial p.config.polls, none, none, 0⟩

def isDone (k : Keeper ρ) : Bool := k.loop.isDone

def stop (l : Link ρ σ) (k : Keeper ρ) : Keeper ρ :=
  { k with loop := k.loop.askStop, pipeline := { k.pipeline with own := l.halt k.pipeline.own } }

def period (k : Keeper ρ) : Nat := k.pipeline.config.pollPeriod.toNanoseconds

def templateTime : Nat := 100000

/-- A tick that comes later than this, in nanoseconds, delays the ticks that follow. -/
def tolerance : Nat := 5000000

def nextTick (k : Keeper ρ) (now : Nat) : Nat :=
  if k.due + tolerance < now then now + k.period else k.due + k.period

/-- The keeper after an event of its loop, if the event is possible. -/
def follow? (k : Keeper ρ) (e : LoopEvent) : Option (Keeper ρ) :=
  (k.loop.step? e).map fun l => { k with loop := l }

/-- A keeper whose loop has begun a round turns to the templates. -/
def enter (k : Keeper ρ) : Keeper ρ :=
  if k.loop.phase = .working then
    { k with
      pipeline := k.pipeline.flush
      stage? := some (.templates Round.start k.pipeline.bindings) }
  else k

/-- The round is over. The ticks start with the end of the first one. -/
def conclude (k : Keeper ρ) (now : Nat) (r : Report) : Option (Keeper ρ) := do
  let due := if k.loop.ended = 0 then now + k.period else k.due
  { k with stage? := none, report? := some r, due := due }.follow? .roundEnds

/-- Between rounds, the loop starts, sees that it should stop, or ticks. -/
def loopMove? (k : Keeper ρ) (now : Nat) : Option (Keeper ρ) :=
  match k.follow? .starts with
  | some k => some k.enter
  | none =>
    match k.follow? .seesStop with
    | some k => some k
    | none =>
      if k.due ≤ now then (k.follow? .ticks).map fun m => { m.enter with due := k.nextTick now } else none

/-- In a round, the next thing is done: a template, the beginning of a command, or what the command at work
does. A template for which the cluster has no answer yet is left for later. -/
def stageMove? (l : Link ρ σ) (faults : AtomicWrite.Faults) (k : Keeper ρ) (x : Site σ) :
    Stage → Option (Keeper ρ × Site σ)
  | .templates r (b :: left) =>
    let (y, r) := Round.step l faults k.pipeline.config (k.pipeline.scene x, r) b
    if l.isWaiting y.own then none
    else
      some ({ k with
        pipeline := { k.pipeline with memo := y.memo, own := y.own }
        stage? := some (.templates r left) }, y.site.later templateTime)
  | .templates r [] =>
    let k := { k with pipeline := { k.pipeline with bindings := r.bindings } }
    if k.pipeline.config.dryRun then
      (k.conclude x.host.now r.trialReport).map (·, (x.print r.trialText).later templateTime)
    else some ({ k with stage? := some (.commands r.templates [] none r.scheduled) }, x.later templateTime)
  | .commands found results none [] => (k.conclude x.host.now ⟨found, results, []⟩).map (·, x)
  | .commands found results none (c :: left) =>
    match Running.start c x with
    | .error f =>
      some ({ k with stage? := some (.commands found (results ++ [(c.command, .error f)]) none left) }, x)
    | .ok (m, x) => some ({ k with stage? := some (.commands found results (some m) left) }, x)
  | .commands found results (some m) left =>
    match m.result? with
    | some result =>
      let results := results ++ [(m.scheduled.command, result)]
      some ({ k with stage? := some (.commands found results none left) }, x)
    | none =>
      (Running.move? (m, x)).map fun (m, x) =>
        ({ k with stage? := some (.commands found results (some m) left) }, x)

/-- The next move, while some steps of writing files fail from outside. -/
def moveUnder? (l : Link ρ σ) (faults : AtomicWrite.Faults) (m : Keeper ρ × Site σ) :
    Option (Keeper ρ × Site σ) :=
  match m.1.stage? with
  | some s => stageMove? l faults m.1 m.2 s
  | none => (m.1.loopMove? m.2.host.now).map (·, m.2)

def move? (l : Link ρ σ) (m : Keeper ρ × Site σ) : Option (Keeper ρ × Site σ) :=
  moveUnder? l AtomicWrite.noFaults m

/-- The time at which something is due: a tick, or the end of what a command has. -/
def due? (k : Keeper ρ) : Option Nat :=
  match k.stage?, k.loop.phase with
  | some (.commands _ _ (some m) _), _ => m.due?
  | none, .resting => some k.due
  | _, _ => none

def actor (l : Link ρ σ) : Actor (Keeper ρ) σ := ⟨move? l, due?⟩

end Keeper

end Stencil.Upkeep
