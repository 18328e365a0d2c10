import Stencil.Cluster.Memo
import Stencil.Cluster.Remote
import Stencil.Machine.Host
import Stencil.Template.Engine

set_option autoImplicit false
set_option relaxedAutoImplicit false

/-!
Where templates are kept up: a machine, a directory on it, a cluster, and what was printed. Everything that is
at work there shares it.
-/

namespace Stencil.Upkeep

open Stencil.Cluster Stencil.Filesystem Stencil.Machine Stencil.Template

/-- A machine with a cluster at its side. The epoch is the time, in seconds, at which its clock stood at zero. -/
structure Site (σ : Type) where
  host : Host
  working : Filesystem.Place
  environment : List (String × String)
  epoch : Nat
  cluster : σ
  printed : String

namespace Site

variable {σ : Type}

def view (x : Site σ) : View := ⟨x.host.tree, x.working⟩

def withTree (x : Site σ) (t : Tree) : Site σ := { x with host := { x.host with tree := t } }

def later (x : Site σ) (nanoseconds : Nat) : Site σ :=
  { x with host := { x.host with now := x.host.now + nanoseconds } }

def print (x : Site σ) (s : String) : Site σ := { x with printed := x.printed ++ s }

def seconds (x : Site σ) : Int := x.epoch + x.host.now / 1000000000

end Site

/-- How the cluster is asked. Part of what answers belongs to the asker, part is shared. An asker may be told
to stop, and then waits for no answer any more. -/
structure Link (ρ σ : Type) where
  client : Client (ρ × σ)
  halt : ρ → ρ
  isWaiting : ρ → Bool
  [order : ArgumentOrder]

namespace Link

/-- Everybody asks the same inventory, which always answers. -/
def inventory : Link Unit Inventory where
  client := ⟨fun q (_, i) =>
    let (r, i) := Inventory.list q i
    (r, (), i)⟩
  halt := id
  isWaiting _ := false

/-- Everybody has a client of a server. It waits while a mirror has no first list. -/
def remote : Link Remote Unit where
  client := ⟨fun q (r, _) =>
    let (a, r) := Remote.list q r
    (a, r, ())⟩
  halt := Remote.stop
  isWaiting r := !r.stopped && r.mirrors.any fun m => match m.2 with
    | .starting => true
    | .synced _ => false

def world {ρ σ : Type} (l : Link ρ σ) (x : Site σ) : World (Memo × ρ × σ) :=
  { client := Memo.client l.client, environment := x.environment, seconds := x.seconds, order := l.order }

end Link

end Stencil.Upkeep
