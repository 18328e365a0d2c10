import Stencil.Proofs.Filesystem.Straight
import Stencil.Proofs.Run
import Stencil.Proofs.Upkeep.Repetition

set_option autoImplicit false
set_option relaxedAutoImplicit false

/-!
A pipeline that is built anew after a round. Main statement: if only its own visit changed what is read at the output
of each template, the new pipeline is the one that the round left, and it finds every template unchanged. Templates
that share an output are not found so.
-/

namespace Stencil.Upkeep

open Stencil.Cluster Stencil.Filesystem Stencil.Settings

/-- A binding is loaded from the files that bringing a text to its output left as it is left itself, if the text can
be read where it was written. -/
theorem Binding.load_settle {start v w : View} {d : Template.Delimiters} {descriptor : Descriptor} {b : Binding}
    (hload : load start d descriptor = .ok b)
    (hsource : w.readText descriptor.source = start.readText descriptor.source)
    (hbefore : v.readText descriptor.output = start.readText descriptor.output)
    (hstraight : AtomicWrite.Straight v descriptor.output) (faults : AtomicWrite.Faults)
    {rendered : Except BindingFault String} {o : Settlement}
    (hdone : (settle faults false rendered v b).1 = .ok o)
    (hafter : w.readText descriptor.output =
      (⟨(settle faults false rendered v b).2.1.tree, v.working⟩ : View).readText descriptor.output) :
    load w d descriptor = .ok (settle faults false rendered v b).2.2 := by
  obtain ⟨source, program, hread, hcompile, rfl⟩ := load_eq_ok_iff.mp hload
  refine load_eq_ok_iff.mpr ⟨source, program, hsource.trans hread, hcompile, ?_⟩
  -- only the text that the output now holds is left to compare, by what became of the rendered text
  have hsettles := settles faults false rendered v ⟨descriptor, program, existing start descriptor.output⟩
  generalize settle faults false rendered v _ = r at hdone hafter hsettles ⊢
  cases hsettles with
  | unrendered f => cases hdone
  | failed => cases hdone
  | tried _ htrial => cases htrial
  | unchanged =>
    have hsame : w.readText descriptor.output = start.readText descriptor.output := hafter.trans hbefore
    simp only [existing, hsame]
  | @written text _ _ hf =>
    obtain ⟨hworking, hreads⟩ := hstraight.write_done faults text hf
    rw [← hworking] at hafter
    simp only [existing, hafter.trans hreads]

namespace Round

variable {ρ σ : Type}

/-- Up to a later time nobody but its own visit changed what is read at the output of a template, and nobody what is
read at its source. What the visit may have written can be read. -/
structure OnlyVisited (start now : View) (x : Scene ρ σ) (y : Visit ρ σ) : Prop where
  source : now.readText y.binding.descriptor.source = start.readText y.binding.descriptor.source
  before : x.site.view.readText y.binding.descriptor.output = start.readText y.binding.descriptor.output
  straight : AtomicWrite.Straight x.site.view y.binding.descriptor.output
  after : now.readText y.binding.descriptor.output = y.scene.site.view.readText y.binding.descriptor.output

def withScenes (x : Scene ρ σ) (ys : List (Visit ρ σ)) : List (Scene ρ σ × Visit ρ σ) :=
  (x :: ys.map Visit.scene).zip ys

theorem load_visit {l : Link ρ σ} {c : Config} {faults : AtomicWrite.Faults} {x : Scene ρ σ} {b : Binding}
    {start now : View} {d : Template.Delimiters} {descriptor : Descriptor} (hrun : c.dryRun = false)
    (hload : Binding.load start d descriptor = .ok b) {o : Settlement}
    (hdone : (visit l faults c x b).result = .ok o) (h : OnlyVisited start now x (visit l faults c x b)) :
    Binding.load now d descriptor = .ok (visit l faults c x b).binding := by
  obtain ⟨-, hdescriptor⟩ := visit_eq l faults c x b
  have hd : (visit l faults c x b).binding.descriptor = descriptor := by
    obtain ⟨_, _, -, -, rfl⟩ := Binding.load_eq_ok_iff.mp hload
    exact hdescriptor
  obtain ⟨hsource, hbefore, hstraight, hafter⟩ := h
  obtain ⟨hresult, hbinding, hview⟩ := visit_settle l faults c x b
  rw [hd] at hsource hbefore hstraight hafter
  rw [hview] at hafter
  rw [hresult] at hdone
  rw [hbinding]
  rw [hrun] at hdone hafter ⊢
  exact Binding.load_settle hload hsource hbefore hstraight faults hdone hafter

theorem mapM_load_visits {l : Link ρ σ} {c : Config} {start now : View} {d : Template.Delimiters}
    (hrun : c.dryRun = false) {descriptors : List Descriptor} {bs : List Binding}
    (hload : List.Forall₂ (fun descriptor b => Binding.load start d descriptor = .ok b) descriptors bs)
    (faults : AtomicWrite.Faults) (x : Scene ρ σ) (hdone : ∀ y ∈ visits l c faults x bs, ∃ o, y.result = .ok o)
    (h : ∀ t ∈ withScenes x (visits l c faults x bs), OnlyVisited start now t.1 t.2) :
    List.Forall₂ (fun descriptor b => Binding.load now d descriptor = .ok b) descriptors
      ((visits l c faults x bs).map Visit.binding) := by
  induction hload generalizing faults x with
  | nil => exact .nil
  | cons hb _ ih =>
    rw [visits] at hdone h ⊢
    obtain ⟨⟨o, ho⟩, hdone⟩ := List.forall_mem_cons.mp hdone
    obtain ⟨hfirst, hrest⟩ := List.forall_mem_cons.mp h
    exact .cons (load_visit hrun hb ho hfirst) (ih _ _ hdone hrest)

end Round

theorem Status.ok_of_not_isFailure {r : Except BindingFault Settlement} (h : (Status.of r).isFailure = false) :
    ∃ o, r = .ok o := by
  have hmatches := Status.matches_of r
  generalize Status.of r = t at h hmatches
  cases hmatches with
  | unchanged | changed => exact ⟨_, rfl⟩
  | renderFailed | writeFailed => cases h

namespace Pipeline

open Round

variable {ρ σ : Type}

theorem build_of_mapM {v : View} {c : Config} {bs : List Binding}
    (h : c.templates.mapM (Binding.load v c.delimiters) = .ok bs) (own : ρ) :
    build true v c own = .ok ⟨c, bs, Memo.empty, own⟩ := by
  rw [build, if_neg (by decide), h]

theorem report_settled (l : Link ρ σ) (faults : AtomicWrite.Faults)
    (execute : Scheduled → Site σ → CommandResult × Site σ) (p : Pipeline ρ) (x : Site σ)
    (h : ∀ y ∈ p.visits l faults x, y.result = .ok .unchanged) :
    (p.round l faults execute x).1.templates = p.bindings.map (fun b => (b.name, Status.unchanged)) ∧
      (p.round l faults execute x).1.commands = [] ∧ (p.round l faults execute x).1.skipped = [] := by
  obtain ⟨htemplates, hcommands, -, -⟩ := report_round l faults execute p x
  have hcalls : (p.visits l faults x).filterMap (called? p.config) = [] := by
    refine List.filterMap_eq_nil_iff.mpr fun y hy => called?_eq_iff.mpr (.unchanged fun text htext => ?_)
    cases (h y hy).symm.trans htext
  rw [hcalls] at hcommands
  obtain ⟨hran, hskipped⟩ := List.append_eq_nil_iff.mp hcommands
  refine ⟨htemplates.trans ?_, List.map_eq_nil_iff.mp hran, hskipped⟩
  have hstatuses : (p.visits l faults x).map (fun y => (y.binding.name, Status.of y.result)) =
      (p.visits l faults x).map (fun y => (y.binding.name, Status.unchanged)) :=
    List.map_congr_left fun y hy => by rw [h y hy, Status.of]
  have hnames := congrArg (List.map fun n => (n, Status.unchanged)) (names_visits l faults p x)
  rw [List.map_map, List.map_map] at hnames
  exact hstatuses.trans hnames

/-- A pipeline whose bindings are as they are loaded makes a round outside of a trial, in which no template fails. Up
to a later time, only its own visit changed what is read at the output of each template, the sources read as before,
and the cluster answers a new asker as it answered then. The pipeline that is built of the same settings then finds
every template unchanged and runs no command. -/
theorem restart_finds_all_unchanged (l : Link ρ σ) (faults faults' : AtomicWrite.Faults)
    (execute execute' : Scheduled → Site σ → CommandResult × Site σ) (p : Pipeline ρ) (own : ρ) (x x' : Site σ)
    (hrun : p.config.dryRun = false)
    (hload : p.config.templates.mapM (Binding.load x.view p.config.delimiters) = .ok p.bindings)
    (hprograms : ∀ b ∈ p.bindings, b.program.AnswersOnly)
    (hdone : ∀ t ∈ (p.round l faults execute x).1.templates, t.2.isFailure = false)
    (halike : l.client.Alike (p.own, x.cluster) (own, x'.cluster))
    (hfiles : ∀ t ∈ withScenes (p.flush.scene x) (p.visits l faults x), OnlyVisited x.view x'.view t.1 t.2) :
    ∃ q, build true x'.view p.config own = .ok q ∧
      let report := (q.round l faults' execute' x').1
      report.templates = p.bindings.map (fun b => (b.name, Status.unchanged)) ∧ report.commands = [] ∧
        report.skipped = [] := by
  obtain ⟨htemplates, -⟩ := report_round l faults execute p x
  have hsettled : ∀ y ∈ p.visits l faults x, ∃ o, y.result = .ok o := by
    intro y hy
    have hstatus := hdone (y.binding.name, Status.of y.result) (htemplates ▸ List.mem_map_of_mem hy)
    exact Status.ok_of_not_isFailure hstatus
  have hbindings := mapM_load_visits hrun (Run.mapM_eq_ok_iff.mp hload) faults (p.flush.scene x) hsettled hfiles
  let q : Pipeline ρ := ⟨p.config, (p.visits l faults x).map Visit.binding, Memo.empty, own⟩
  refine ⟨q, build_of_mapM (Run.mapM_eq_ok_iff.mpr hbindings) own, ?_⟩
  have hscenes : AnswersAlike l (p.flush.scene x) (q.flush.scene x') := Memo.alike_client halike Memo.empty
  have hagain := (visits_again (c := p.config) hprograms hscenes faults faults').imp fun _ _ h => h.2
  obtain ⟨hfound, hran, hskipped⟩ := report_settled l faults' execute' q x' (settled_again hagain hsettled)
  refine ⟨hfound.trans ?_, hran, hskipped⟩
  have hnames := congrArg (List.map fun n => (n, Status.unchanged)) (names_visits l faults p x)
  rw [List.map_map, List.map_map] at hnames
  rw [List.map_map]
  exact hnames

/-- A template writes an output that was not there, another one finds its output as it should be. After a restart
both find theirs so. -/
theorem restart_after_first_output :
    let l : Link Unit Unit := ⟨⟨fun q s => (Inventory.empty.answer q, s)⟩, id, fun _ => false⟩
    let c : Config :=
      { Config.initial with templates := [⟨"/t", "/d/a", some "r", none⟩, ⟨"/u", "/b", some "s", none⟩] }
    let tree : Tree := ⟨[(["t"], .file 0o644 [109]), (["u"], .file 0o644 [110]), (["b"], .file 0o644 [110])]⟩
    let x : Site Unit := ⟨.start tree, [], [], 0, (), ""⟩
    let execute (_ : Scheduled) (x : Site Unit) : CommandResult × Site Unit := (.ok (), x)
    ∃ p, build true x.view c () = .ok p ∧
      let first := p.round l AtomicWrite.noFaults execute x
      first.1.commands.map Prod.fst = ["r"] ∧
      ∃ q, build true first.2.2.view c () = .ok q ∧
        let second := (q.round l AtomicWrite.noFaults execute first.2.2).1
        second.templates = [("t", .unchanged), ("u", .unchanged)] ∧ second.commands = [] := by
  intro l c tree x execute
  let p : Pipeline Unit := ⟨c, [⟨⟨"/t", "/d/a", some "r", none⟩, ⟨"t", [.text ['m']], [], []⟩, ""⟩,
    ⟨⟨"/u", "/b", some "s", none⟩, ⟨"u", [.text ['n']], [], []⟩, "n"⟩], .empty, ()⟩
  have hload : p.config.templates.mapM (Binding.load x.view p.config.delimiters) = .ok p.bindings := by
    have ht : Template.compile (Path.shortName "/t") "m" .usual = .ok ⟨"t", [.text ['m']], [], []⟩ := by
      with_unfolding_all rfl
    have hu : Template.compile (Path.shortName "/u") "n" .usual = .ok ⟨"u", [.text ['n']], [], []⟩ := by
      with_unfolding_all rfl
    exact Run.mapM_eq_ok_iff.mpr (.cons (Binding.load_text (by decide +kernel) ht (by decide +kernel))
      (.cons (Binding.load_text (by decide +kernel) hu (by decide +kernel)) .nil))
  have hprograms : ∀ b ∈ p.bindings, b.program.AnswersOnly := by
    intro b hb
    simp only [p, List.mem_cons, List.not_mem_nil, or_false] at hb
    rcases hb with rfl | rfl <;> exact fun _ _ _ _ _ _ => rfl
  have halike (s t : Unit × Unit) : l.client.Alike s t := Subsingleton.elim s t ▸ .refl l.client s
  let x' := (p.round l AtomicWrite.noFaults execute x).2.2
  let ts := withScenes (p.flush.scene x) (p.visits l AtomicWrite.noFaults x)
  have hsources : ∀ t ∈ ts, x'.view.readText t.2.binding.descriptor.source =
      x.view.readText t.2.binding.descriptor.source := by
    decide +kernel
  have houtputs : ∀ t ∈ ts, t.1.site.view.readText t.2.binding.descriptor.output =
      x.view.readText t.2.binding.descriptor.output ∧ x'.view.readText t.2.binding.descriptor.output =
        t.2.scene.site.view.readText t.2.binding.descriptor.output := by
    decide +kernel
  have hstraight : ∀ t ∈ ts, t.1.site.view.readText t.2.binding.descriptor.output = .ok "n" ∨
      ∀ w ∈ AtomicWrite.approaches t.1.site.view t.2.binding.descriptor.output,
        w.exists? t.2.binding.descriptor.output = false := by
    decide +kernel
  have hfiles : ∀ t ∈ ts, OnlyVisited x.view x'.view t.1 t.2 := by
    intro t ht
    refine ⟨hsources t ht, (houtputs t ht).1, ?_, (houtputs t ht).2⟩
    rcases hstraight t ht with hreads | hmissing
    · exact AtomicWrite.straight_of_readText hreads
    · exact AtomicWrite.straight_of_missing hmissing
  obtain ⟨q, hq, hfound, hran, -⟩ := restart_finds_all_unchanged l AtomicWrite.noFaults AtomicWrite.noFaults execute
    execute p () x x' rfl hload hprograms (by decide +kernel) (halike _ _) hfiles
  exact ⟨p, build_of_mapM hload (), by decide +kernel, q, hq, hfound, hran⟩

/-- Of two templates that share an output, the second writes over what the first wrote. A pipeline that is built anew
then finds the first one changed, though nothing happened in between, and runs its command again. -/
theorem shared_output_changes_after_restart :
    let v : View := ⟨⟨[(["a"], .file 0o644 [49]), (["b"], .file 0o644 [50])]⟩, []⟩
    let inputs : Inputs := ⟨none, false, false, false, none, none, none, none, none, none, ["/a:/o:r", "/b:/o"]⟩
    let c : Config := { Config.initial with templates := [⟨"/a", "/o", some "r", none⟩, ⟨"/b", "/o", none, none⟩] }
    let x : Site Inventory := ⟨.start v.tree, v.working, [], 0, .empty, ""⟩
    let execute (_ : Scheduled) (x : Site Inventory) : CommandResult × Site Inventory := (.ok (), x)
    let found (r : Report) := r.templates.map fun t => (t.1, t.2.isChange)
    (load v "/" inputs).1 = .ok c ∧
      ∃ p, build true x.view c () = .ok p ∧
        let first := p.round .inventory AtomicWrite.noFaults execute x
        found first.1 = [("a", true), ("b", true)] ∧
        ∃ q, build true first.2.2.view c () = .ok q ∧
          let second := q.round .inventory AtomicWrite.noFaults execute first.2.2
          found second.1 = [("a", true), ("b", false)] ∧ second.1.commands.map Prod.fst = ["r"] := by
  intro v inputs c x execute found
  let a (text : String) : Binding := ⟨⟨"/a", "/o", some "r", none⟩, ⟨"a", [.text ['1']], [], []⟩, text⟩
  let b (text : String) : Binding := ⟨⟨"/b", "/o", none, none⟩, ⟨"b", [.text ['2']], [], []⟩, text⟩
  let p : Pipeline Unit := ⟨c, [a "", b ""], .empty, ()⟩
  let q : Pipeline Unit := ⟨c, [a "2", b "2"], .empty, ()⟩
  let w : View := ⟨⟨v.tree.entries ++ [(["o"], .file 0o644 [50])]⟩, []⟩
  have hw : (p.round .inventory AtomicWrite.noFaults execute x).2.2.view = w := by decide +kernel
  have ha : Template.compile (Path.shortName "/a") "1" .usual = .ok (a "").program := by with_unfolding_all rfl
  have hb : Template.compile (Path.shortName "/b") "2" .usual = .ok (b "").program := by with_unfolding_all rfl
  have hp : c.templates.mapM (Binding.load x.view c.delimiters) = .ok p.bindings :=
    Run.mapM_eq_ok_iff.mpr (.cons (Binding.load_text (by decide +kernel) ha (by decide +kernel))
      (.cons (Binding.load_text (by decide +kernel) hb (by decide +kernel)) .nil))
  have hq : c.templates.mapM (Binding.load w c.delimiters) = .ok q.bindings :=
    Run.mapM_eq_ok_iff.mpr (.cons (Binding.load_text (by decide +kernel) ha (by decide +kernel))
      (.cons (Binding.load_text (by decide +kernel) hb (by decide +kernel)) .nil))
  exact ⟨by decide +kernel, p, build_of_mapM hp (), by decide +kernel, q, hw ▸ build_of_mapM hq (),
    by decide +kernel⟩

/-- An output path that makes a detour by the link that it ends at leads nowhere once it has been written. After a
restart it cannot be written any more. -/
theorem detour_fails_after_restart :
    let v : View := ⟨⟨[(["a"], .file 0o644 [49]), (["d"], .directory), (["l"], .link "d")]⟩, []⟩
    let c : Config := { Config.initial with templates := [⟨"/a", "/l/../l", none, none⟩] }
    let x : Site Inventory := ⟨.start v.tree, v.working, [], 0, .empty, ""⟩
    let execute (_ : Scheduled) (x : Site Inventory) : CommandResult × Site Inventory := (.ok (), x)
    ∃ p, build true x.view c () = .ok p ∧
      let first := p.round .inventory AtomicWrite.noFaults execute x
      first.1.templates.map (fun t => t.2.isChange) = [true] ∧
      ∃ q, build true first.2.2.view c () = .ok q ∧
        let second := q.round .inventory AtomicWrite.noFaults execute first.2.2
        second.1.templates.map (fun t => t.2.isFailure) = [true] := by
  intro v c x execute
  let p : Pipeline Unit :=
    ⟨c, [⟨⟨"/a", "/l/../l", none, none⟩, ⟨"a", [.text ['1']], [], []⟩, ""⟩], .empty, ()⟩
  let w : View := ⟨⟨[(["a"], .file 0o644 [49]), (["d"], .directory), (["l"], .file 0o644 [49])]⟩, []⟩
  have hw : (p.round .inventory AtomicWrite.noFaults execute x).2.2.view = w := by decide +kernel
  have ha : Template.compile (Path.shortName "/a") "1" .usual = .ok ⟨"a", [.text ['1']], [], []⟩ := by
    with_unfolding_all rfl
  have hp : c.templates.mapM (Binding.load x.view c.delimiters) = .ok p.bindings :=
    Run.mapM_eq_ok_iff.mpr (.cons (Binding.load_text (by decide +kernel) ha (by decide +kernel)) .nil)
  have hq : c.templates.mapM (Binding.load w c.delimiters) = .ok p.bindings :=
    Run.mapM_eq_ok_iff.mpr (.cons (Binding.load_text (by decide +kernel) ha (by decide +kernel)) .nil)
  exact ⟨p, build_of_mapM hp (), by decide +kernel, p, hw ▸ build_of_mapM hq (), by decide +kernel⟩

end Pipeline

end Stencil.Upkeep
