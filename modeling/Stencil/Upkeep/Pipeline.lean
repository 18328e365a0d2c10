import Stencil.Upkeep.Round

set_option autoImplicit false
set_option relaxedAutoImplicit false

/-!
The templates of a configuration, ready to be kept up, with a memory for what the cluster answers. The memory is
flushed before each round.
-/

namespace Stencil.Upkeep

open Stencil.Cluster Stencil.Filesystem Stencil.Settings

/-- Why there is no pipeline. The last is that nothing is there that could carry out questions. -/
inductive SetupFault
  | configuration (fault : ConfigFault)
  | cluster (failure : Failure)
  | template (fault : BindingFault)
  | noWorkers

/-- The message of a fault. What a file system says is left out. -/
def BindingFault.message : BindingFault → String
  | .source p _ => "can't read template " ++ p
  | .template f => f.message
  | .output f => "I/O error at " ++ f.path

def SetupFault.message : SetupFault → String
  | .configuration f => "configuration error: " ++ f.message
  | .cluster f => "cluster error: " ++ f.message
  | .template f => "template error: " ++ f.message
  | .noWorkers => "no async runtime"

/-- Templates that are kept up, what is remembered of the cluster, and what belongs to the one who asks it. -/
structure Pipeline (ρ : Type) where
  config : Config
  bindings : List Binding
  memo : Memo
  own : ρ

namespace Pipeline

variable {ρ σ : Type}

/-- Reads all templates of a configuration. The first that cannot be read decides. -/
def build (hasWorkers : Bool) (v : View) (c : Config) (own : ρ) : Except SetupFault (Pipeline ρ) :=
  if !hasWorkers then .error .noWorkers
  else
    match c.templates.mapM (Binding.load v c.delimiters) with
    | .error f => .error (.template f)
    | .ok bs => .ok ⟨c, bs, Memo.empty, own⟩

def flush (p : Pipeline ρ) : Pipeline ρ := { p with memo := Memo.empty }

def scene (p : Pipeline ρ) (x : Site σ) : Scene ρ σ := ⟨x, p.memo, p.own⟩

def after (p : Pipeline ρ) (x : Scene ρ σ) (r : Round) : Pipeline ρ :=
  { p with bindings := r.bindings, memo := x.memo, own := x.own }

def round (l : Link ρ σ) (faults : AtomicWrite.Faults)
    (execute : Scheduled → Site σ → CommandResult × Site σ) (p : Pipeline ρ) (x : Site σ) :
    Report × Pipeline ρ × Site σ :=
  let (y, r) := Round.templatePhase l faults p.config (p.flush.scene x) p.bindings
  let p := p.after y r
  if p.config.dryRun then (r.trialReport, p, y.site.print r.trialText)
  else
    let (results, x) := Round.commandPhase execute r.scheduled y.site
    (⟨r.templates, results, []⟩, p, x)

end Pipeline

end Stencil.Upkeep
