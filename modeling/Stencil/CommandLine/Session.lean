import Stencil.Cluster.Connection
import Stencil.CommandLine.Arguments
import Stencil.Upkeep.Supervision

set_option autoImplicit false
set_option relaxedAutoImplicit false

/-!
A run of the program, from its arguments to its end. With settings for a single round it does that round;
otherwise it goes on until a signal asks it to stop, and another signal makes it read its settings anew.
-/

namespace Stencil.CommandLine

open Stencil.Cluster Stencil.Filesystem Stencil.Machine Stencil.Settings Stencil.Upkeep

inductive Fatal
  | configuration (fault : ConfigFault)
  | setup (fault : SetupFault)

def Fatal.context : Fatal → String
  | .configuration _ => "can't load configuration"
  | .setup _ => "can't set up the render pipeline"

def Fatal.cause : Fatal → String
  | .configuration f => f.message
  | .setup f => f.message

/-- A run: it does a single round, serves until it is told to stop, or is over. -/
inductive Session
  | once (keeper : Keeper Remote)
  | serving (inputs : Inputs) (supervision : Supervision (Keeper Remote))
  | over (ending : Ending) (fatal? : Option Fatal)

namespace Session

def versionText : String := "kubeplate 0.1.0\n"

/-- The pipeline of a configuration. Mirrors are kept only for rounds that are repeated. -/
def pipeline (server : Server) (c : Config) (x : Site Unit) : Except SetupFault (Pipeline Remote) :=
  match Connection.mode x.view (x.environment.lookup "HOME") c.access (c.polls && !c.runOnce) with
  | .error f => .error (.cluster f)
  | .ok mode => Pipeline.build true x.view c (Remote.start mode server)

def prepare (server : Server) (inputs : Inputs) (x : Site Unit) : Except Fatal (Config × Pipeline Remote) :=
  match (load x.view (pathOf x.working) inputs).1 with
  | .error f => .error (.configuration f)
  | .ok c =>
    match pipeline server c x with
    | .error f => .error (.setup f)
    | .ok p => .ok (c, p)

/-- The beginning of a run with its arguments. -/
def start (server : Server) (args : List String) (x : Site Unit) : Session × Site Unit :=
  match parse args x.environment with
  | .error stop =>
    let x := match stop with
      | .displayVersion => x.print versionText
      | _ => x
    (.over (.code stop.exitCode) none, x)
  | .ok a =>
    match prepare server a.inputs x with
    | .error f => (.over (.code 1) (some f), x)
    | .ok (c, p) =>
      let k := Keeper.ofPipeline p
      (if c.runOnce then .once k else .serving a.inputs (Supervision.start k), x)

def isOver : Session → Bool
  | .over _ _ => true
  | _ => false

def controlOf? (signal : Nat) : Option Control :=
  match signalName? signal with
  | some "INT" | some "TERM" | some "QUIT" => some .stop
  | some "HUP" => some .reload
  | _ => none

def strike (signal : Nat) (s : Session) : Session :=
  if signalEffect signal = .finishes then .over (.signal signal) none else s

/-- A signal reaches the run. Behind a stop, a serving run listens no more. -/
def signal (signal : Nat) (s : Session) : Session :=
  match s, controlOf? signal with
  | .serving inputs m, some c =>
    if m.isClosed then s
    else
      let m := m.ask c
      .serving inputs (if c = .stop then m.close else m)
  | .over _ _, _ => s
  | _, _ => s.strike signal

/-- The next keeper of a serving run, by the settings as they are now. -/
def renewed? (server : Server) (inputs : Inputs) (_ : Nat) (x : Site Unit) : Option (Keeper Remote) :=
  match prepare server inputs x with
  | .error _ => none
  | .ok (_, p) => some (Keeper.ofPipeline p)

def supervisor (server : Server) (inputs : Inputs) : Actor (Supervision (Keeper Remote)) Unit :=
  Supervision.actor (Keeper.handling Link.remote) (renewed? server inputs) (Keeper.actor Link.remote)

def move? (server : Server) : Session × Site Unit → Option (Session × Site Unit)
  | (.once k, x) =>
    if k.report?.isSome then some (.over (.code 0) none, x)
    else (Keeper.move? Link.remote (k, x)).map fun (k, x) => (.once k, x)
  | (.serving inputs m, x) =>
    if m.isOver then some (.over (.code 0) none, x)
    else ((supervisor server inputs).move? (m, x)).map fun (m, x) => (.serving inputs m, x)
  | (.over _ _, _) => none

def due? : Session → Option Nat
  | .once k => k.due?
  | .serving _ m => m.current.due?
  | .over _ _ => none

def actor (server : Server) : Actor Session Unit := ⟨move? server, due?⟩

end Session

end Stencil.CommandLine
