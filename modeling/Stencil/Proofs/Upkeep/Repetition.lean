import Stencil.Proofs.Template.Rendering
import Stencil.Proofs.Upkeep.Round

set_option autoImplicit false
set_option relaxedAutoImplicit false

/-!
Two rounds in which the cluster answers alike. Main statement: what was settled in the first round is found unchanged
in the second, what could not be rendered cannot be rendered again, and the second calls for a command only where an
output that could not be written the first time now is.
-/

namespace Stencil.Upkeep

open Stencil.Cluster Stencil.Filesystem Stencil.Settings

/-- What comes of a text that is brought to its output a second time, or of the same failure to render one. Only
outside of trials there are outputs that cannot be written. -/
inductive Settlement.Repeats (trial : Bool) :
    Except BindingFault Settlement → Except BindingFault Settlement → Prop
  | settled (o : Settlement) : Repeats trial (.ok o) (.ok .unchanged)
  | unrendered {f : BindingFault} : f.isOutput = false → Repeats trial (.error f) (.error f)
  | rewritten {f : BindingFault} (text : String) :
      trial = false → f.isOutput = true → Repeats trial (.error f) (.ok (.changed text))
  | unwritten {f g : BindingFault} :
      trial = false → f.isOutput = true → g.isOutput = true → Repeats trial (.error f) (.error g)

/-- The text of the template was there, and its output could not be written. -/
def Status.isUnwritten : Status → Bool
  | .writeFailed _ => true
  | _ => false

inductive Status.Repeats : Status → Status → Prop
  | unchanged : Repeats .unchanged .unchanged
  | changed : Repeats .changed .unchanged
  | renderFailed (f : BindingFault) : Repeats (.renderFailed f) (.renderFailed f)
  | rewritten (f : BindingFault) : Repeats (.writeFailed f) .changed
  | writeFailed (f g : BindingFault) : Repeats (.writeFailed f) (.writeFailed g)

theorem Status.of_error_of_isOutput {f : BindingFault} (h : f.isOutput = true) :
    Status.of (.error f) = .writeFailed f := if_pos h

theorem Status.of_error_of_not_isOutput {f : BindingFault} (h : f.isOutput = false) :
    Status.of (.error f) = .renderFailed f := if_neg (by simp [h])

theorem Settlement.Repeats.status {trial : Bool} {r r' : Except BindingFault Settlement} (h : Repeats trial r r') :
    Status.Repeats (.of r) (.of r') := by
  cases h with
  | settled o =>
    cases o with
    | unchanged => exact .unchanged
    | changed content => exact .changed
  | @unrendered f hf =>
    rw [Status.of_error_of_not_isOutput hf]
    exact .renderFailed f
  | @rewritten f text _ hf =>
    rw [Status.of_error_of_isOutput hf]
    exact .rewritten f
  | @unwritten f g _ hf hg =>
    rw [Status.of_error_of_isOutput hf, Status.of_error_of_isOutput hg]
    exact .writeFailed f g

namespace Binding

theorem settle_again (faults faults' : AtomicWrite.Faults) (trial : Bool) {rendered : Except BindingFault String}
    (hrendered : ∀ f, rendered = .error f → f.isOutput = false) (v w : View) (b : Binding) :
    Settlement.Repeats trial (settle faults trial rendered v b).1
      (settle faults' trial rendered w (settle faults trial rendered v b).2.2).1 := by
  have hsettles := settles faults trial rendered v b
  generalize settle faults trial rendered v b = r at hsettles ⊢
  cases hsettles with
  | unrendered f => exact .unrendered (hrendered f rfl)
  | unchanged =>
    rw [settle_lastOutput]
    exact .settled _
  | @tried text _ _ =>
    rw [settle_lastOutput faults' trial w { b with lastOutput := text }]
    exact .settled _
  | @written text _ _ _ =>
    rw [settle_lastOutput faults' trial w { b with lastOutput := text }]
    exact .settled _
  | @failed text f ht htrial _ =>
    have hsettles := settles faults' trial (.ok text) w b
    generalize settle faults' trial (.ok text) w b = r' at hsettles ⊢
    cases hsettles with
    | unchanged => exact absurd rfl ht
    | tried _ htried => cases htrial.symm.trans htried
    | failed _ _ _ => exact .unwritten htrial rfl rfl
    | written _ _ _ => exact .rewritten text htrial rfl

theorem render_congr {σ : Type} {b b' : Binding} (h : b'.program = b.program) (w : Template.World σ) (s : σ) :
    b'.render w s = b.render w s := by
  rw [render, render, h]

end Binding

namespace Round

variable {ρ σ : Type} {l : Link ρ σ} {c : Config} {x x' : Scene ρ σ} {b : Binding}

/-- Asked from two scenes, the cluster and the memory in front of it answer alike. -/
def AnswersAlike (l : Link ρ σ) (x x' : Scene ρ σ) : Prop :=
  (Memo.client l.client).Alike (x.memo, x.own, x.site.cluster) (x'.memo, x'.own, x'.site.cluster)

theorem rendered_again (hb : b.program.AnswersOnly) (h : AnswersAlike l x x') :
    rendered l x b = rendered l x' b ∧ (∀ f, rendered l x b = .error f → f.isOutput = false) ∧
      (Memo.client l.client).Alike (b.render (l.world x.site) (x.memo, x.own, x.site.cluster)).2
        (b.render (l.world x'.site) (x'.memo, x'.own, x'.site.cluster)).2 := by
  have hclient : (l.world x.site).client = (l.world x'.site).client := rfl
  have hrender := hb.render_eq hclient rfl h
  unfold rendered Binding.render
  generalize Template.render (l.world x.site) b.program _ = r at hrender ⊢
  generalize Template.render (l.world x'.site) b.program _ = r' at hrender ⊢
  obtain ⟨result, s⟩ := r
  obtain ⟨result', s'⟩ := r'
  obtain ⟨hresult, hstates⟩ := hrender
  obtain rfl : result = result' := hresult
  cases result with
  | ok text => exact ⟨rfl, nofun, hstates⟩
  | error e =>
    refine ⟨rfl, fun f hf => ?_, hstates⟩
    cases hf
    rfl

theorem visit_again (hb : b.program.AnswersOnly) (h : AnswersAlike l x x') (faults faults' : AtomicWrite.Faults) :
    let y := visit l faults c x b
    let y' := visit l faults' c x' y.binding
    Settlement.Repeats c.dryRun y.result y'.result ∧ AnswersAlike l y.scene y'.scene := by
  intro y y'
  obtain ⟨hsame, hfault, hstates⟩ := rendered_again hb h
  have hrender := Binding.render_congr (visit_eq l faults c x b).1 (l.world x'.site)
    (x'.memo, x'.own, x'.site.cluster)
  obtain ⟨hresult, hbinding, -⟩ := visit_settle l faults c x b
  obtain ⟨hresult', -, -⟩ := visit_settle l faults' c x' y.binding
  have hrendered : rendered l x' y.binding = rendered l x b := (congrArg Prod.fst hrender).trans hsame.symm
  constructor
  · rw [hrendered] at hresult'
    rw [hresult, hresult', hbinding]
    exact Binding.settle_again faults faults' c.dryRun hfault _ _ b
  · have hasked := visit_asked l faults c x b
    have hasked' := visit_asked l faults' c x' y.binding
    rw [hrender] at hasked'
    rw [AnswersAlike, hasked, hasked']
    exact hstates

/-- Templates that are visited a second time, asked of a cluster that answers as it did the first time. -/
theorem visits_again {bs : List Binding} (hbs : ∀ b ∈ bs, b.program.AnswersOnly) (h : AnswersAlike l x x')
    (faults faults' : AtomicWrite.Faults) :
    let ys := visits l c faults x bs
    List.Forall₂ (fun y y' => y'.binding.name = y.binding.name ∧ Settlement.Repeats c.dryRun y.result y'.result) ys
      (visits l c faults' x' (ys.map Visit.binding)) := by
  induction bs generalizing faults faults' x x' with
  | nil => exact .nil
  | cons b bs ih =>
    obtain ⟨hb, hbs⟩ := List.forall_mem_cons.mp hbs
    obtain ⟨hresult, hscene⟩ := visit_again (c := c) hb h faults faults'
    refine .cons ⟨?_, hresult⟩ (ih hbs hscene _ _)
    exact congrArg Template.Program.name (visit_eq l faults' c x' _).1

theorem called?_again {y y' : Visit ρ σ} (h : Settlement.Repeats c.dryRun y.result y'.result)
    (hwritten : (Status.of y.result).isUnwritten = false) : called? c y' = none := by
  have hstatus := h.status
  rw [called?]
  generalize Status.of y.result = t at hstatus hwritten
  generalize Status.of y'.result = t' at hstatus
  cases hstatus with
  | unchanged | changed | renderFailed | writeFailed => rfl
  | rewritten => cases hwritten

theorem calls_again {ys ys' : List (Visit ρ σ)}
    (h : List.Forall₂ (fun y y' => Settlement.Repeats c.dryRun y.result y'.result) ys ys') :
    ys'.filterMap (called? c) =
      (((ys.map fun y => (y.binding.name, Status.of y.result)).zip ys').filter fun t => t.1.2.isUnwritten).filterMap
        fun t => called? c t.2 := by
  induction h with
  | nil => rfl
  | @cons y y' ys ys' hy _ ih =>
    rw [List.map_cons, List.zip_cons_cons, List.filter_cons, List.filterMap_cons, ih]
    dsimp only
    cases hwritten : (Status.of y.result).isUnwritten with
    | false =>
      rw [called?_again hy hwritten]
      rfl
    | true => rw [if_pos rfl, List.filterMap_cons]

theorem forall_right_of_forall₂ {α β : Type} {R : α → β → Prop} {P : β → Prop} {as : List α} {bs : List β}
    (h : List.Forall₂ R as bs) (hR : ∀ a b, R a b → P b) : ∀ b ∈ bs, P b := by
  induction h with
  | nil => exact fun _ hb => absurd hb List.not_mem_nil
  | cons hab _ ih => exact List.forall_mem_cons.mpr ⟨hR _ _ hab, ih⟩

theorem unchanged_again (htrial : c.dryRun = true) {ys ys' : List (Visit ρ σ)}
    (h : List.Forall₂ (fun y y' => Settlement.Repeats c.dryRun y.result y'.result) ys ys') :
    ∀ y' ∈ ys', ∀ text, y'.result ≠ .ok (.changed text) := by
  refine forall_right_of_forall₂ h fun y y' hy text htext => ?_
  rw [htext, htrial] at hy
  generalize y.result = r at hy
  cases hy with
  | rewritten _ hfalse _ => cases hfalse

theorem settled_again {ys ys' : List (Visit ρ σ)}
    (h : List.Forall₂ (fun y y' => Settlement.Repeats c.dryRun y.result y'.result) ys ys')
    (hsettled : ∀ y ∈ ys, ∃ o, y.result = .ok o) : ∀ y' ∈ ys', y'.result = .ok .unchanged := by
  refine forall_right_of_forall₂ ((List.forall₂_and_left _ _).mpr ⟨hsettled, h⟩) fun y y' hy => ?_
  obtain ⟨⟨o, ho⟩, hrepeats⟩ := hy
  rw [ho] at hrepeats
  generalize y'.result = r' at hrepeats ⊢
  cases hrepeats with
  | settled => rfl

theorem printed_sceneAfter (l : Link ρ σ) (c : Config) (faults : AtomicWrite.Faults) (x : Scene ρ σ)
    (bs : List Binding) (h : ∀ y ∈ visits l c faults x bs, ∀ text, y.result ≠ .ok (.changed text)) :
    (sceneAfter x (visits l c faults x bs)).site.printed = x.site.printed := by
  induction bs generalizing faults x with
  | nil => rfl
  | cons b bs ih =>
    rw [visits] at h ⊢
    obtain ⟨hb, hbs⟩ := List.forall_mem_cons.mp h
    rw [sceneAfter, List.map_cons, List.getLastD_cons, ← sceneAfter, ih _ _ hbs]
    have hprinted : (visit l faults c x b).scene.site.printed =
      x.site.printed ++ printed c (visit l faults c x b).binding.name (visit l faults c x b).result := rfl
    have hnothing : printed c (visit l faults c x b).binding.name (visit l faults c x b).result = "" := by
      unfold printed
      split
      · next text htext => exact absurd htext (hb text)
      · rfl
    rw [hprinted, hnothing, String.append_empty]

end Round

namespace Pipeline

open Round

variable {ρ σ : Type}

def visits (l : Link ρ σ) (faults : AtomicWrite.Faults) (p : Pipeline ρ) (x : Site σ) : List (Visit ρ σ) :=
  Round.visits l p.config faults (p.flush.scene x) p.bindings

theorem round_eq (l : Link ρ σ) (faults : AtomicWrite.Faults)
    (execute : Scheduled → Site σ → CommandResult × Site σ) (p : Pipeline ρ) (x : Site σ) :
    let ys := p.visits l faults x
    let y := sceneAfter (p.flush.scene x) ys
    let due := Schedule.ofCalls (ys.filterMap (called? p.config))
    let templates := ys.map fun y => (y.binding.name, Status.of y.result)
    let q : Pipeline ρ := ⟨p.config, ys.map Visit.binding, y.memo, y.own⟩
    p.round l faults execute x =
      if p.config.dryRun then
        (⟨templates, [], due.map Scheduled.command⟩, q,
          y.site.print (String.join (due.map fun s => commandAnnouncement s.command)))
      else
        let r := commandPhase execute due y.site
        (⟨templates, r.1, []⟩, q, r.2) := by
  intro ys y due templates q
  have hphase : templatePhase l faults p.config (p.flush.scene x) p.bindings = (y, noted p.config start ys) :=
    foldl_step l faults p.config (p.flush.scene x) start p.bindings
  have htemplates : (noted p.config start ys).templates = templates := templates_noted p.config start ys
  have hbindings : (noted p.config start ys).bindings = ys.map Visit.binding := bindings_noted p.config start ys
  have hscheduled : (noted p.config start ys).scheduled = due := scheduled_noted p.config start ys
  rw [round, hphase]
  dsimp only [after, trialReport, trialText, flush]
  rw [htemplates, hbindings, hscheduled]

theorem commandPhase_names (execute : Scheduled → Site σ → CommandResult × Site σ) (ss : List Scheduled)
    (x : Site σ) : (commandPhase execute ss x).1.map Prod.fst = ss.map Scheduled.command := by
  induction ss generalizing x with
  | nil => rfl
  | cons s ss ih => rw [commandPhase, List.map_cons, List.map_cons, ih]

theorem names_visits (l : Link ρ σ) (faults : AtomicWrite.Faults) (p : Pipeline ρ) (x : Site σ) :
    (p.visits l faults x).map (fun y => y.binding.name) = p.bindings.map Binding.name := by
  have hprograms := congrArg (List.map fun b => b.1.name)
    (bindings_visits l p.config faults (p.flush.scene x) p.bindings)
  rw [List.map_map, List.map_map] at hprograms
  exact hprograms

/-- What a round reports: the result of every visit and the commands that are called for, each once. -/
theorem report_round (l : Link ρ σ) (faults : AtomicWrite.Faults)
    (execute : Scheduled → Site σ → CommandResult × Site σ) (p : Pipeline ρ) (x : Site σ) :
    let ys := p.visits l faults x
    let report := (p.round l faults execute x).1
    report.templates = ys.map (fun y => (y.binding.name, Status.of y.result)) ∧
      report.commands.map Prod.fst ++ report.skipped =
        ((ys.filterMap (called? p.config)).map Scheduled.command).eraseDups ∧
      (p.config.dryRun = true → report.commands = []) ∧ (p.config.dryRun = false → report.skipped = []) := by
  intro ys report
  have hround := round_eq l faults execute p x
  have hdue := (Schedule.isFirst_ofCalls (ys.filterMap (called? p.config))).commands
  dsimp only at hround
  cases htrial : p.config.dryRun with
  | true =>
    rw [htrial, if_pos rfl] at hround
    have hreport : report = _ := congrArg Prod.fst hround
    rw [hreport]
    exact ⟨rfl, hdue, fun _ => rfl, nofun⟩
  | false =>
    rw [htrial, if_neg Bool.false_ne_true] at hround
    have hreport : report = _ := congrArg Prod.fst hround
    rw [hreport]
    refine ⟨rfl, ?_, nofun, fun _ => rfl⟩
    rw [List.append_nil, commandPhase_names]
    exact hdue

theorem pipeline_round (l : Link ρ σ) (faults : AtomicWrite.Faults)
    (execute : Scheduled → Site σ → CommandResult × Site σ) (p : Pipeline ρ) (x : Site σ) :
    (p.round l faults execute x).2.1.config = p.config ∧
      (p.round l faults execute x).2.1.bindings = (p.visits l faults x).map Visit.binding := by
  rw [round_eq]
  dsimp only
  split <;> exact ⟨rfl, rfl⟩

theorem printed_round (l : Link ρ σ) (faults : AtomicWrite.Faults)
    (execute : Scheduled → Site σ → CommandResult × Site σ) (p : Pipeline ρ) (x : Site σ)
    (htrial : p.config.dryRun = true) (h : ∀ y ∈ p.visits l faults x, ∀ text, y.result ≠ .ok (.changed text)) :
    (p.round l faults execute x).1.skipped = [] ∧ (p.round l faults execute x).2.2.printed = x.printed := by
  have hcalls : (p.visits l faults x).filterMap (called? p.config) = [] :=
    List.filterMap_eq_nil_iff.mpr fun y hy => called?_eq_iff.mpr (.unchanged (h y hy))
  have hprinted := printed_sceneAfter l p.config faults (p.flush.scene x) p.bindings h
  rw [round_eq]
  dsimp only
  rw [if_pos htrial, hcalls]
  exact ⟨rfl, (String.append_empty).trans hprinted⟩

/-- Two rounds between which nothing happens to what the cluster answers, nor to its failures, for templates that
depend on nothing else. What was settled in the first is found unchanged in the second, and what could not be rendered
fails in the same way. The commands that the second runs, or as a trial announces, are those of the outputs that could
not be written in the first and now are. A second trial announces nothing. -/
theorem second_round_repeats (l : Link ρ σ) (faults faults' : AtomicWrite.Faults)
    (execute execute' : Scheduled → Site σ → CommandResult × Site σ) (p : Pipeline ρ) (x x' : Site σ)
    (hprograms : ∀ b ∈ p.bindings, b.program.AnswersOnly)
    (halike : l.client.Alike (p.own, x.cluster) ((p.round l faults execute x).2.1.own, x'.cluster)) :
    let first := (p.round l faults execute x).1
    let p' := (p.round l faults execute x).2.1
    let second := (p'.round l faults' execute' x').1
    let again := (first.templates.zip (p'.visits l faults' x')).filter fun t => t.1.2.isUnwritten
    List.Forall₂ (fun t t' => t'.1 = t.1 ∧ Status.Repeats t.2 t'.2) first.templates second.templates ∧
      second.commands.map Prod.fst ++ second.skipped =
        ((again.filterMap fun t => called? p.config t.2).map Scheduled.command).eraseDups ∧
      (p.config.dryRun = true → second.commands = [] ∧ second.skipped = [] ∧
        (p'.round l faults' execute' x').2.2.printed = x'.printed) ∧
      (p.config.dryRun = false → second.skipped = []) := by
  intro first p' second again
  obtain ⟨htemplates, -⟩ := report_round l faults execute p x
  obtain ⟨hconfig, hbindings⟩ := pipeline_round l faults execute p x
  have hvisits : p'.visits l faults' x' =
      Round.visits l p.config faults' (p'.flush.scene x') ((p.visits l faults x).map Visit.binding) := by
    rw [visits, hconfig, hbindings]
  have hscenes : AnswersAlike l (p.flush.scene x) (p'.flush.scene x') := Memo.alike_client halike Memo.empty
  have hagain := visits_again (c := p.config) hprograms hscenes faults faults'
  dsimp only at hagain
  rw [← visits, ← hvisits] at hagain
  have hresults := hagain.imp fun _ _ h => h.2
  obtain ⟨htemplates', hcommands, hran, hskipped⟩ := report_round l faults' execute' p' x'
  rw [hconfig] at hcommands hran hskipped
  refine ⟨?_, ?_, fun htrial => ?_, hskipped⟩
  · rw [htemplates, htemplates', List.forall₂_map_left_iff, List.forall₂_map_right_iff]
    exact hagain.imp fun y y' h => ⟨h.1, h.2.status⟩
  · rw [hcommands, calls_again hresults, ← htemplates]
  · have hnothing := unchanged_again htrial hresults
    exact ⟨hran htrial, printed_round l faults' execute' p' x' (hconfig ▸ htrial) hnothing⟩

/-- The disk has no room for the first output at first. The second round writes it and runs its command, and nothing
else. -/
theorem second_round_runs_missed_command :
    let pod : Object := .obj [("metadata", .obj [("name", .str "p"), ("namespace", .str "default")])]
    let cluster : Inventory := ⟨fun k => if k = .pods then [pod] else [], [.secrets], []⟩
    let l : Link Unit Unit := ⟨⟨fun q s => (cluster.answer q, s)⟩, id, fun _ => false⟩
    let x : Site Unit := ⟨.start ⟨[]⟩, [], [], 0, (), ""⟩
    let count (name kind : String) : Template.Program :=
      ⟨name, [.output ⟨false, false⟩ (.mk (.call (.mk kind [])) [.mk "length" []] false)], [], []⟩
    let a : Binding := ⟨⟨"/t", "/a", some "r", none⟩, count "t" "pods", ""⟩
    let b : Binding := ⟨⟨"/u", "/b", some "s", none⟩, count "u" "pods", ""⟩
    let d : Binding := ⟨⟨"/v", "/d", some "s", none⟩, count "v" "secrets", ""⟩
    let p : Pipeline Unit := ⟨.initial, [a, b, d], .empty, ()⟩
    let full : AtomicWrite.Faults := fun i s => if i = 0 ∧ s = .create then some ⟨.resourceBusy, 0⟩ else none
    let execute (_ : Scheduled) (x : Site Unit) : CommandResult × Site Unit := (.ok (), x)
    let (first, p', x') := p.round l full execute x
    let (second, _, _) := p'.round l AtomicWrite.noFaults execute x'
    first.commands.map Prod.fst = ["s"] ∧ second.commands.map Prod.fst = ["r"] ∧
      ∀ t t', (t, t') ∈ first.templates.zip second.templates → t'.2.isChange = true → t.1 = "t" := by
  intro pod cluster l x count a b d p full execute
  have hprograms : ∀ b ∈ p.bindings, b.program.AnswersOnly := by
    intro b hb
    simp only [p, List.mem_cons, List.not_mem_nil, or_false] at hb
    rcases hb with rfl | rfl | rfl <;> exact fun _ _ _ _ _ _ => rfl
  have halike (s t : Unit × Unit) : l.client.Alike s t := Subsingleton.elim s t ▸ .refl l.client s
  have hrepeats := second_round_repeats l full AtomicWrite.noFaults execute execute p x
    (p.round l full execute x).2.2 hprograms (halike _ _)
  have hran : (p.round l full execute x).1.commands.map Prod.fst = ["s"] := by decide +kernel
  have hfirst : ∀ t ∈ (p.round l full execute x).1.templates, t.2.isUnwritten = true → t.1 = "t" := by
    decide +kernel
  have hcalls : (((((p.round l full execute x).1.templates.zip
      ((p.round l full execute x).2.1.visits l AtomicWrite.noFaults (p.round l full execute x).2.2)).filter
        fun t => t.1.2.isUnwritten).filterMap fun t => called? p.config t.2).map Scheduled.command).eraseDups =
          ["r"] := by
    decide +kernel
  generalize p.round l full execute x = r at hrepeats hran hfirst hcalls ⊢
  obtain ⟨first, p', x'⟩ := r
  dsimp only at hrepeats hran hfirst hcalls ⊢
  generalize p'.round l AtomicWrite.noFaults execute x' = r' at hrepeats ⊢
  obtain ⟨second, q, y⟩ := r'
  obtain ⟨hstatuses, hcommands, -, hskipped⟩ := hrepeats
  refine ⟨hran, ?_, fun t t' ht hchange => ?_⟩
  · rw [hskipped rfl, List.append_nil, hcalls] at hcommands
    exact hcommands
  · obtain ⟨-, hrepeats⟩ := List.forall₂_zip hstatuses ht
    refine hfirst t (List.of_mem_zip ht).1 ?_
    generalize t.2 = s at hrepeats
    generalize t'.2 = s' at hrepeats hchange
    cases hrepeats with
    | rewritten f => rfl
    | unchanged | changed | renderFailed | writeFailed => cases hchange

end Pipeline

end Stencil.Upkeep
