import Stencil.Text.Quoted
import Stencil.Upkeep.Binding
import Stencil.Upkeep.Execution
import Stencil.Upkeep.Schedule
import Stencil.Upkeep.Site

set_option autoImplicit false
set_option relaxedAutoImplicit false

/-!
One round: every template is brought to its output, in order, and then the commands that the changes call for
are carried out one after another. No failure ends a round. A trial writes nothing and runs nothing; it prints
what it would have done.
-/

namespace Stencil.Upkeep

open Stencil.Cluster Stencil.Filesystem Stencil.Settings

inductive Status
  | unchanged
  | changed
  | renderFailed (fault : BindingFault)
  | writeFailed (fault : BindingFault)

/-- The status of a template that was brought to its output, or was not. -/
def Status.of : Except BindingFault Settlement → Status
  | .ok .unchanged => .unchanged
  | .ok (.changed _) => .changed
  | .error f => if f.isOutput then .writeFailed f else .renderFailed f

/-- The output was not what it should be, and is now. -/
def Status.isChange : Status → Bool
  | .changed => true
  | _ => false

def Status.isFailure : Status → Bool
  | .renderFailed _ | .writeFailed _ => true
  | _ => false

abbrev CommandResult := Except CommandFault Unit

/-- What one round did, in order. The last commands are those that a trial would have run. -/
structure Report where
  templates : List (String × Status)
  commands : List (String × CommandResult)
  skipped : List String

namespace Report

def changed (r : Report) : Nat := r.templates.countP fun t => t.2.isChange

def failed (r : Report) : Nat := r.templates.countP fun t => t.2.isFailure

def commandsFailed (r : Report) : Nat := r.commands.countP fun c => !c.2.isOk

end Report

/-- What a round has done so far: the templates that it dealt with, what it found about them, and the commands
that are called for. -/
structure Round where
  bindings : List Binding
  templates : List (String × Status)
  scheduled : List Scheduled

/-- Where a round takes place: a site, and what its owner remembers and asks the cluster with. -/
structure Scene (ρ σ : Type) where
  site : Site σ
  memo : Memo
  own : ρ

/-- What became of a template in a round: the binding afterwards, the result, and the scene that was left. -/
structure Visit (ρ σ : Type) where
  binding : Binding
  result : Except BindingFault Settlement
  scene : Scene ρ σ

namespace Round

variable {ρ σ : Type}

def start : Round := ⟨[], [], []⟩

def announcement (name content : String) : String := "(dry-run) " ++ name ++ ":\n" ++ content ++ "\n"

def commandAnnouncement (command : String) : String :=
  "(dry-run) executing: " ++ Text.Quoted.quote command ++ "\n"

/-- The command that the result for a template calls for, in the form that it has by now. -/
def call? (c : Config) (v : View) (d : Descriptor) (result : Except BindingFault Settlement) :
    Option Scheduled :=
  match result with
  | .ok (.changed _) => d.command.map fun command => ⟨Schedule.normalize v command, c.timeoutOf d⟩
  | _ => none

def record (c : Config) (v : View) (b : Binding) (result : Except BindingFault Settlement) (r : Round) :
    Round where
  bindings := r.bindings ++ [b]
  templates := r.templates ++ [(b.name, Status.of result)]
  scheduled := (call? c v b.descriptor result).elim r.scheduled (Schedule.add r.scheduled)

def printed (c : Config) (name : String) : Except BindingFault Settlement → String
  | .ok (.changed content) => if c.dryRun then announcement name content else ""
  | _ => ""

def visit (l : Link ρ σ) (faults : AtomicWrite.Faults) (c : Config) (x : Scene ρ σ) (b : Binding) :
    Visit ρ σ :=
  let (rendered, memo, own, cluster) := b.render (l.world x.site) (x.memo, x.own, x.site.cluster)
  let (result, v, b) := Binding.settle faults c.dryRun rendered x.site.view b
  let site := ({ x.site with cluster := cluster }.withTree v.tree).print (printed c b.name result)
  ⟨b, result, ⟨site, memo, own⟩⟩

/-- Brings the next template to its output and takes note of the result. -/
def step (l : Link ρ σ) (faults : AtomicWrite.Faults) (c : Config) (m : Scene ρ σ × Round) (b : Binding) :
    Scene ρ σ × Round :=
  let y := visit l (faults.drop m.2.templates.length) c m.1 b
  (y.scene, m.2.record c y.scene.site.view y.binding y.result)

def templatePhase (l : Link ρ σ) (faults : AtomicWrite.Faults) (c : Config) (x : Scene ρ σ)
    (bs : List Binding) : Scene ρ σ × Round :=
  bs.foldl (step l faults c) (x, start)

def commandPhase (execute : Scheduled → Site σ → CommandResult × Site σ) :
    List Scheduled → Site σ → List (String × CommandResult) × Site σ
  | [], x => ([], x)
  | c :: cs, x =>
    let (result, x) := execute c x
    let (results, x) := commandPhase execute cs x
    ((c.command, result) :: results, x)

def trialReport (r : Round) : Report := ⟨r.templates, [], r.scheduled.map (·.command)⟩

def trialText (r : Round) : String := String.join (r.scheduled.map fun c => commandAnnouncement c.command)

end Round

end Stencil.Upkeep
