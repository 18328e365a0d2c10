import Mathlib.Data.List.Forall2
import Mathlib.Data.List.ReduceOption
import Stencil.Proofs.Upkeep.Agreement
import Stencil.Proofs.Upkeep.Schedule
import Stencil.Upkeep.Pipeline

set_option autoImplicit false
set_option relaxedAutoImplicit false

/-!
What one round reports and what it runs. The templates are visited one after another, and the report and the
commands that are due can be read off the visits. Main statement: the report has the result of every template in
order, and of the commands that changes call for, the first of each form is run, once and in order, when all
templates have been visited.
-/

namespace Stencil.Upkeep

open Stencil.Cluster Stencil.Filesystem Stencil.Settings

theorem Binding.settle_eq (faults : AtomicWrite.Faults) (trial : Bool) (rendered : Except BindingFault String)
    (v : View) (b : Binding) :
    ∃ text, (settle faults trial rendered v b).2.2 = { b with lastOutput := text } := by
  have hsettles := settles faults trial rendered v b
  generalize settle faults trial rendered v b = r at hsettles ⊢
  cases hsettles with
  | unrendered | unchanged | failed => exact ⟨b.lastOutput, rfl⟩
  | @tried text | @written text => exact ⟨text, rfl⟩

inductive Status.Matches : Except BindingFault Settlement → Status → Prop
  | unchanged : Matches (.ok .unchanged) .unchanged
  | changed (content : String) : Matches (.ok (.changed content)) .changed
  | renderFailed {f : BindingFault} : f.isOutput = false → Matches (.error f) (.renderFailed f)
  | writeFailed {f : BindingFault} : f.isOutput = true → Matches (.error f) (.writeFailed f)

theorem Status.matches_of (result : Except BindingFault Settlement) : Matches result (.of result) := by
  cases result with
  | ok o =>
    cases o with
    | unchanged => exact .unchanged
    | changed content => exact .changed content
  | error f =>
    rw [Status.of]
    split
    · next h => exact .writeFailed h
    · next h => exact .renderFailed (Bool.not_eq_true _ ▸ h)

theorem Status.isChange_of_eq_true_iff (result : Except BindingFault Settlement) :
    (Status.of result).isChange = true ↔ ∃ content, result = .ok (.changed content) := by
  cases result with
  | ok o => cases o <;> simp [Status.of, Status.isChange]
  | error f =>
    rw [Status.of]
    split <;> simp [Status.isChange]

namespace Round

variable {ρ σ : Type}

def rendered (l : Link ρ σ) (x : Scene ρ σ) (b : Binding) : Except BindingFault String :=
  (b.render (l.world x.site) (x.memo, x.own, x.site.cluster)).1

theorem visit_settle (l : Link ρ σ) (faults : AtomicWrite.Faults) (c : Config) (x : Scene ρ σ) (b : Binding) :
    let r := Binding.settle faults c.dryRun (rendered l x b) x.site.view b
    (visit l faults c x b).result = r.1 ∧ (visit l faults c x b).binding = r.2.2 ∧
      (visit l faults c x b).scene.site.view = ⟨r.2.1.tree, x.site.working⟩ :=
  ⟨rfl, rfl, rfl⟩

theorem visit_asked (l : Link ρ σ) (faults : AtomicWrite.Faults) (c : Config) (x : Scene ρ σ) (b : Binding) :
    let y := (visit l faults c x b).scene
    (y.memo, y.own, y.site.cluster) = (b.render (l.world x.site) (x.memo, x.own, x.site.cluster)).2 :=
  rfl

/-- The visits to templates one after another, each at the scene that the one before left. -/
def visits (l : Link ρ σ) (c : Config) : AtomicWrite.Faults → Scene ρ σ → List Binding → List (Visit ρ σ)
  | _, _, [] => []
  | faults, x, b :: bs =>
    let y := visit l faults c x b
    y :: visits l c (faults.drop 1) y.scene bs

def sceneAfter (x : Scene ρ σ) (ys : List (Visit ρ σ)) : Scene ρ σ := (ys.map Visit.scene).getLastD x

def called? (c : Config) (y : Visit ρ σ) : Option Scheduled :=
  if (Status.of y.result).isChange then
    y.binding.descriptor.command.map fun command =>
      ⟨Schedule.normalize y.scene.site.view command, y.binding.descriptor.timeout.getD c.commandTimeout⟩
  else none

/-- What a visit calls for: a change calls for the command of the template, if it has one, in the form that it has right
after the visit, with its own time or else the usual one. -/
inductive Calls (c : Config) (y : Visit ρ σ) : Option Scheduled → Prop
  | unchanged : (∀ content, y.result ≠ .ok (.changed content)) → Calls c y none
  | commandless : y.binding.descriptor.command = none → Calls c y none
  | command {content command form : String} :
      y.result = .ok (.changed content) → y.binding.descriptor.command = some command →
      Schedule.IsForm y.scene.site.view command form →
      Calls c y (some ⟨form, y.binding.descriptor.timeout.getD c.commandTimeout⟩)

def noted (c : Config) (r : Round) (ys : List (Visit ρ σ)) : Round :=
  ys.foldl (fun r y => r.record c y.scene.site.view y.binding y.result) r

theorem call?_eq_called? (c : Config) (y : Visit ρ σ) :
    call? c y.scene.site.view y.binding.descriptor y.result = called? c y := by
  rw [called?]
  cases y.result with
  | ok o =>
    cases o with
    | unchanged => rfl
    | changed content => rfl
  | error f =>
    rw [Status.of]
    split <;> rfl

theorem called?_eq_iff {c : Config} {y : Visit ρ σ} {o : Option Scheduled} : called? c y = o ↔ Calls c y o := by
  by_cases hchange : ∃ content, y.result = .ok (.changed content)
  · have hcalled : called? c y = y.binding.descriptor.command.map fun command =>
        ⟨Schedule.normalize y.scene.site.view command, y.binding.descriptor.timeout.getD c.commandTimeout⟩ := by
      rw [called?, if_pos ((Status.isChange_of_eq_true_iff _).mpr hchange)]
    obtain ⟨content, hresult⟩ := hchange
    rw [hcalled]
    constructor
    · rintro rfl
      cases hcommand : y.binding.descriptor.command with
      | none => exact .commandless hcommand
      | some command => exact .command hresult hcommand (Schedule.isForm_normalize _ _)
    · intro h
      cases h with
      | unchanged hnot => exact absurd hresult (hnot content)
      | commandless hnone => rw [hnone, Option.map_none]
      | command _ hsome hform => rw [hsome, Option.map_some, Schedule.normalize_eq_iff.mpr hform]
  · have hcalled : called? c y = none := by
      rw [called?, if_neg ((Status.isChange_of_eq_true_iff _).not.mpr hchange)]
    push Not at hchange
    rw [hcalled]
    constructor
    · rintro rfl
      exact .unchanged hchange
    · intro h
      cases h with
      | unchanged | commandless => rfl
      | command hresult => exact absurd hresult (hchange _)

theorem forall₂_calls_iff {c : Config} {ys : List (Visit ρ σ)} {calls : List (Option Scheduled)} :
    List.Forall₂ (Calls c) ys calls ↔ ys.map (called? c) = calls := by
  rw [← List.forall₂_eq_eq_eq, List.forall₂_map_left_iff]
  simp only [called?_eq_iff]

private theorem drop_succ (faults : AtomicWrite.Faults) (n : Nat) :
    faults.drop (n + 1) = (faults.drop n).drop 1 := by
  funext i
  exact congrArg faults (by omega)

private theorem length_record (c : Config) (v : View) (b : Binding)
    (result : Except BindingFault Settlement) (r : Round) :
    (r.record c v b result).templates.length = r.templates.length + 1 := by
  simp [record]

theorem foldl_step (l : Link ρ σ) (faults : AtomicWrite.Faults) (c : Config) (x : Scene ρ σ) (r : Round)
    (bs : List Binding) :
    let ys := visits l c (faults.drop r.templates.length) x bs
    bs.foldl (step l faults c) (x, r) = (sceneAfter x ys, noted c r ys) := by
  induction bs generalizing x r with
  | nil => rfl
  | cons b bs ih =>
    rw [List.foldl_cons, step, ih, length_record, drop_succ, visits]
    dsimp only [sceneAfter]
    rw [List.map_cons, List.getLastD_cons, noted, noted, List.foldl_cons]

theorem templates_noted (c : Config) (r : Round) (ys : List (Visit ρ σ)) :
    (noted c r ys).templates = r.templates ++ ys.map fun y => (y.binding.name, Status.of y.result) := by
  induction ys generalizing r with
  | nil => exact (List.append_nil _).symm
  | cons y ys ih =>
    rw [noted, List.foldl_cons, ← noted, ih, record, List.append_assoc]
    rfl

theorem bindings_noted (c : Config) (r : Round) (ys : List (Visit ρ σ)) :
    (noted c r ys).bindings = r.bindings ++ ys.map Visit.binding := by
  induction ys generalizing r with
  | nil => exact (List.append_nil _).symm
  | cons y ys ih =>
    rw [noted, List.foldl_cons, ← noted, ih, record, List.append_assoc]
    rfl

theorem scheduled_noted (c : Config) (r : Round) (ys : List (Visit ρ σ)) :
    (noted c r ys).scheduled = (ys.filterMap (called? c)).foldl Schedule.add r.scheduled := by
  induction ys generalizing r with
  | nil => rfl
  | cons y ys ih =>
    rw [noted, List.foldl_cons, ← noted, ih, record, call?_eq_called?, List.filterMap_cons]
    cases called? c y <;> rfl

theorem visit_eq (l : Link ρ σ) (faults : AtomicWrite.Faults) (c : Config) (x : Scene ρ σ) (b : Binding) :
    (visit l faults c x b).binding.program = b.program ∧
      (visit l faults c x b).binding.descriptor = b.descriptor := by
  rw [visit]
  generalize b.render (l.world x.site) (x.memo, x.own, x.site.cluster) = rendered
  obtain ⟨text, htext⟩ := Binding.settle_eq faults c.dryRun rendered.1 x.site.view b
  dsimp only
  rw [htext]
  exact ⟨rfl, rfl⟩

theorem bindings_visits (l : Link ρ σ) (c : Config) (faults : AtomicWrite.Faults) (x : Scene ρ σ)
    (bs : List Binding) :
    (visits l c faults x bs).map (fun y => (y.binding.program, y.binding.descriptor)) =
      bs.map fun b => (b.program, b.descriptor) := by
  induction bs generalizing faults x with
  | nil => rfl
  | cons b bs ih =>
    obtain ⟨hprogram, hdescriptor⟩ := visit_eq l faults c x b
    rw [visits, List.map_cons, List.map_cons, ih, hprogram, hdescriptor]

/-- Commands are carried out in order, each once, and each where the one before left off. -/
inductive Executes (execute : Scheduled → Site σ → CommandResult × Site σ) :
    Site σ → List Scheduled → List CommandResult → Site σ → Prop
  | nil (x : Site σ) : Executes execute x [] [] x
  | cons {x y z : Site σ} {s : Scheduled} {ss : List Scheduled} {r : CommandResult} {rs : List CommandResult} :
      execute s x = (r, y) → Executes execute y ss rs z → Executes execute x (s :: ss) (r :: rs) z

theorem executes_commandPhase (execute : Scheduled → Site σ → CommandResult × Site σ) (ss : List Scheduled)
    (x : Site σ) :
    ∃ rs, Executes execute x ss rs (commandPhase execute ss x).2 ∧
      (commandPhase execute ss x).1 = List.zipWith (fun s r => (s.command, r)) ss rs := by
  induction ss generalizing x with
  | nil => exact ⟨[], .nil x, rfl⟩
  | cons s ss ih =>
    obtain ⟨rs, hrs, hresults⟩ := ih (execute s x).2
    refine ⟨(execute s x).1 :: rs, .cons rfl hrs, ?_⟩
    rw [commandPhase, List.zipWith_cons_cons, ← hresults]

end Round

namespace Pipeline

open Round

variable {ρ σ : Type}

/-- A round visits every template and reports what became of it, in order. Of the commands that the changes call
for, it then runs the first of each form, in the order of the calls, and reports what came of each. -/
theorem round_runs_first_calls (l : Link ρ σ) (faults : AtomicWrite.Faults)
    (execute : Scheduled → Site σ → CommandResult × Site σ) (p : Pipeline ρ) (x : Site σ)
    (hrun : p.config.dryRun = false) :
    let ys := visits l p.config faults (p.flush.scene x) p.bindings
    let (report, _, x') := p.round l faults execute x
    ys.map (fun y => (y.binding.program, y.binding.descriptor)) =
      p.bindings.map (fun b => (b.program, b.descriptor)) ∧
    report.templates.map Prod.fst = p.bindings.map Binding.name ∧
    List.Forall₂ (fun y t => Status.Matches y.result t.2) ys report.templates ∧
    report.skipped = [] ∧
    ∃ calls due results,
      List.Forall₂ (Calls p.config) ys calls ∧
      due.map Scheduled.command = (calls.reduceOption.map Scheduled.command).eraseDups ∧
      (∀ s ∈ due, calls.reduceOption.find? (fun y => y.command = s.command) = some s) ∧
      Executes execute (sceneAfter (p.flush.scene x) ys).site due results x' ∧
      report.commands = List.zipWith (fun s r => (s.command, r)) due results := by
  intro ys
  have hbindings := bindings_visits l p.config faults (p.flush.scene x) p.bindings
  have hphase : templatePhase l faults p.config (p.flush.scene x) p.bindings =
      (sceneAfter (p.flush.scene x) ys, noted p.config start ys) :=
    foldl_step l faults p.config (p.flush.scene x) start p.bindings
  have htemplates : (noted p.config start ys).templates =
      ys.map fun y => (y.binding.name, Status.of y.result) := templates_noted p.config start ys
  have hcalls : (ys.map (called? p.config)).reduceOption = ys.filterMap (called? p.config) := List.filterMap_map ..
  have hscheduled : (noted p.config start ys).scheduled = Schedule.ofCalls (ys.filterMap (called? p.config)) :=
    scheduled_noted p.config start ys
  rw [← hcalls] at hscheduled
  have hdue := Schedule.isFirst_ofCalls (ys.map (called? p.config)).reduceOption
  obtain ⟨results, hexecutes, hresults⟩ := executes_commandPhase execute
    (Schedule.ofCalls (ys.map (called? p.config)).reduceOption) (sceneAfter (p.flush.scene x) ys).site
  rw [round, hphase]
  dsimp only [after]
  rw [if_neg (by simp [hrun]), htemplates, hscheduled]
  refine ⟨hbindings, ?_, ?_, rfl, _, _, results, forall₂_calls_iff.mpr rfl, hdue.commands, hdue.first, hexecutes,
    hresults⟩
  · have hnames := congrArg (List.map fun b => b.1.name) hbindings
    rw [List.map_map, List.map_map] at hnames
    rw [List.map_map]
    exact hnames
  · rw [List.forall₂_map_right_iff]
    exact List.forall₂_same.mpr fun y _ => Status.matches_of y.result

/-- Two templates that call for one program by two paths have it run once, by the path from the root and with the time
that the first gives it. -/
theorem round_runs_shared_command_once :
    let x : Site Inventory := ⟨.start ⟨[(["r"], .file 0o755 [])]⟩, [], [], 0, .empty, ""⟩
    let a : Binding := ⟨⟨"/t", "/a", some "./r", some ⟨1, 0⟩⟩, ⟨"t", [.text ['n']], [], []⟩, ""⟩
    let b : Binding := ⟨⟨"/t", "/b", some "/r", none⟩, ⟨"u", [.text ['n']], [], []⟩, ""⟩
    let p : Pipeline Unit := ⟨.initial, [a, b], .empty, ()⟩
    let execute (s : Scheduled) (x : Site Inventory) : CommandResult × Site Inventory :=
      (if s.limit = ⟨1, 0⟩ then .ok () else .error (.timeout s.command s.limit), x)
    let (report, _) := p.round .inventory AtomicWrite.noFaults execute x
    report.templates.map Prod.fst = ["t", "u"] ∧ report.commands = [("/r", .ok ())] := by
  intro x a b p execute
  obtain ⟨-, hnames, -, -, calls, due, results, hcalls, hcommands, hfirst, hexecutes, hresults⟩ :=
    round_runs_first_calls .inventory AtomicWrite.noFaults execute p x rfl
  have hcalled : (visits .inventory p.config AtomicWrite.noFaults (p.flush.scene x) p.bindings).map
      (called? p.config) = [some ⟨"/r", ⟨1, 0⟩⟩, some ⟨"/r", ⟨10, 0⟩⟩] := by
    decide +kernel
  obtain rfl := (forall₂_calls_iff.mp hcalls).symm.trans hcalled
  refine ⟨hnames, hresults.trans ?_⟩
  have hr : due.map Scheduled.command = ["/r"] := hcommands
  obtain ⟨s, rest, rfl, hs, hrest⟩ := List.map_eq_cons_iff.mp hr
  obtain rfl := List.map_eq_nil_iff.mp hrest
  have hfirst := hfirst s (List.mem_singleton.mpr rfl)
  rw [hs] at hfirst
  obtain rfl : ⟨"/r", ⟨1, 0⟩⟩ = s := Option.some.inj hfirst
  cases hexecutes with
  | cons hexecute htail =>
    cases htail
    obtain ⟨rfl, -⟩ := Prod.mk.inj hexecute
    rfl

end Pipeline

end Stencil.Upkeep
