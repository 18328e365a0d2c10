import Stencil.Proofs.Template.Evaluation
import Stencil.Template.Engine

set_option autoImplicit false
set_option relaxedAutoImplicit false

/-!
What a template takes from the cluster. Main statement: in states in which the client answers alike, a template comes
to the same text or fault, and leaves such states. If neither the environment nor the time make a difference to it,
this is so in any two of them.
-/

namespace Stencil.Template

open Stencil.Json Stencil.Cluster

variable {σ : Type}

namespace Rendering

open Evaluation

section Parts

variable {x : Setting σ} {c : Client σ} {body empty : Eval σ Output}

theorem byAnswers_runRounds (hbody : ByAnswers c body) (rs : List Round) : ByAnswers c (runRounds body rs) := by
  induction rs with
  | nil => exact .pure _
  | cons r rs ih =>
    rw [runRounds]
    refine (ByAnswers.inFrame _ hbody).bind fun out => ?_
    split
    · exact .pure _
    · exact ih.bind fun others => .pure _

theorem byAnswers_runLoop (names : List String) (container : Expr) {v : Eval σ Value} (hv : ByAnswers c v)
    (hbody : ByAnswers c body) (hempty : ByAnswers c empty) :
    ByAnswers c (runLoop names container v body empty) := by
  unfold runLoop
  dsimp only
  split
  · refine (ByAnswers.throw _).bind fun _ => hv.bind fun v => ?_
    split
    · exact .throw _
    · exact hempty
    · exact (byAnswers_runRounds hbody _).bind fun text => .pure _
  · refine hv.bind fun v => ?_
    split
    · exact .throw _
    · exact hempty
    · exact (byAnswers_runRounds hbody _).bind fun text => .pure _

theorem byAnswers_inclusion (hx : x.ByAnswers) (names : List String) (optional : Bool) :
    ByAnswers x.world.client (inclusion x names optional) := by
  unfold inclusion
  split
  · exact .inFrame _ (hx _)
  · split
    · exact .pure _
    · exact .throw _

mutual

theorem byAnswers_node (hx : x.ByAnswers) : ∀ n, ByAnswers x.world.client (node x n)
  | .text _ | .raw _ _ _ | .comment _ | .leave _ | .continue _ | .define _ _ _ _ _ => by
    rw [node]
    exact .pure _
  | .overridden => by
    rw [node]
    exact .throw _
  | .output _ e => by
    rw [node]
    exact (ByAnswers.value hx e).bind fun v => .pure _
  | .assign _ everywhere name e => by
    rw [node]
    refine (ByAnswers.value hx e).bind fun v => ?_
    exact (ByAnswers.rescope fun s => if everywhere then s.setEverywhere name v else s.set name v).bind fun _ =>
      .pure _
  | .include _ names optional => by
    rw [node]
    exact byAnswers_inclusion hx names optional
  | .loop _ names container body empty _ => by
    rw [node]
    exact byAnswers_runLoop names container (.value hx container) (byAnswers_nodes hx body)
      (byAnswers_nodes hx empty)
  | .branch arms => by
    rw [node]
    exact byAnswers_branch hx arms
  | .filtered _ (.mk name args) body _ => by
    rw [node]
    refine (byAnswers_nodes hx body).bind fun out => ?_
    split
    · exact .pure _
    · exact (ByAnswers.callFilter name _ (.arguments hx _ args)).bind fun v => .pure _
  | .block _ name body _ => by
    rw [node]
    split
    · exact hx _
    · exact byAnswers_nodes hx body

theorem byAnswers_branch (hx : x.ByAnswers) : ∀ arms, ByAnswers x.world.client (branch x arms)
  | .close _ => by
    rw [branch]
    exact .pure _
  | .otherwise _ body _ => by
    rw [branch]
    exact byAnswers_nodes hx body
  | .arm _ condition body rest => by
    rw [branch]
    refine (ByAnswers.truth hx condition).bind fun b => ?_
    split
    · exact byAnswers_nodes hx body
    · exact byAnswers_branch hx rest

theorem byAnswers_nodes (hx : x.ByAnswers) : ∀ ns, ByAnswers x.world.client (nodes x ns)
  | [] => by
    rw [nodes]
    exact .pure _
  | n :: r => by
    rw [nodes]
    refine (byAnswers_node hx n).bind fun first => ?_
    split
    · exact .pure _
    · exact (byAnswers_nodes hx r).bind fun others => .pure _

end

end Parts

theorem byAnswers_atDepth (w : World σ) (p : Program) (n : Nat) (body : List Node) :
    ByAnswers w.client (atDepth w p n body) := by
  induction n generalizing body with
  | zero => exact .throw _
  | succ n ih => exact byAnswers_nodes (x := ⟨w, p, atDepth w p n⟩) ih body

theorem byAnswers_program (w : World σ) (p : Program) : ByAnswers w.client (program w p) :=
  (byAnswers_atDepth w p depthLimit p.body).bind fun out => .closed out

end Rendering

/-- In states in which the client answers alike, a template comes to the same, and leaves such states. -/
theorem render_alike (w : World σ) (p : Program) {s t : σ} (h : w.client.Alike s t) :
    (render w p s).1 = (render w p t).1 ∧ w.client.Alike (render w p s).2 (render w p t).2 := by
  obtain ⟨hresult, hrun⟩ := Rendering.byAnswers_program w p ⟨[.page], s⟩ ⟨[.page], t⟩ ⟨rfl, h⟩
  rw [render, render]
  generalize (Rendering.program w p).run.run ⟨[.page], s⟩ = x at hresult hrun ⊢
  generalize (Rendering.program w p).run.run ⟨[.page], t⟩ = y at hresult hrun ⊢
  obtain ⟨result, r⟩ := x
  obtain ⟨result', r'⟩ := y
  obtain rfl : result = result' := hresult
  cases result with
  | ok text => exact ⟨rfl, hrun.world⟩
  | error fault =>
    have hscope : r.scope = r'.scope := hrun.scope
    dsimp only
    rw [hscope]
    exact ⟨rfl, hrun.world⟩

/-- Neither the environment nor the time make a difference to a template: whichever client is asked, its answers alone
decide. -/
def Program.AnswersOnly (p : Program) : Prop :=
  ∀ {σ : Type} [ArgumentOrder] (c : Client σ) (env env' : List (String × String)) (seconds seconds' : Int) (s : σ),
    render ⟨c, env, seconds⟩ p s = render ⟨c, env', seconds'⟩ p s

theorem Program.AnswersOnly.render_eq {p : Program} (hp : p.AnswersOnly) {w w' : World σ}
    (hw : w.client = w'.client) (horder : w.order = w'.order) {s t : σ} (h : w.client.Alike s t) :
    (render w p s).1 = (render w' p t).1 ∧ w.client.Alike (render w p s).2 (render w' p t).2 := by
  obtain ⟨c, env, seconds⟩ := w
  obtain ⟨c', env', seconds'⟩ := w'
  obtain rfl : c = c' := hw
  obtain rfl := horder
  rw [hp c env' env seconds' seconds t]
  exact render_alike ⟨c, env, seconds⟩ p h

end Stencil.Template
