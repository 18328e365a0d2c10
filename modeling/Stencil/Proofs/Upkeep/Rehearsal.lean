import Stencil.Proofs.Upkeep.Restart

set_option autoImplicit false
set_option relaxedAutoImplicit false

/-!
Trials, one after another. Between them the cluster, the files and the time may change in any way. Main statement: no
trial touches the machine or runs a command, and a trial finds a template changed exactly if its text is another than
the one that was rendered last, which at first is what its output held when the pipeline was built.
-/

namespace Stencil.Upkeep

open Stencil.Cluster Stencil.Filesystem Stencil.Settings

/-- The text that was rendered last, or the first one. Failures are passed over. -/
def lastText (first : String) (renderings : List (Except BindingFault String)) : String :=
  (renderings.filterMap Except.toOption).getLastD first

/-- What a trial finds about a template, by the text that it is compared with. -/
inductive Status.Found (reference : String) : Except BindingFault String → Status → Prop
  | unchanged : Found reference (.ok reference) .unchanged
  | changed {text : String} : text ≠ reference → Found reference (.ok text) .changed
  | renderFailed (f : BindingFault) : Found reference (.error f) (.renderFailed f)

/-- What a trial prints about a template, by its name and what was found about it: the text, if that changed. -/
def announced : String × Status → Except BindingFault String → String
  | (name, .changed), .ok text => Round.announcement name text
  | _, _ => ""

/-- Nothing happened to the machine, and nothing moved on it. The cluster may have been asked, and something printed. -/
structure Site.Untouched {σ : Type} (x y : Site σ) : Prop where
  host : y.host = x.host
  working : y.working = x.working
  environment : y.environment = x.environment
  epoch : y.epoch = x.epoch

theorem lastText_concat (first : String) (renderings : List (Except BindingFault String))
    (r : Except BindingFault String) :
    lastText first (renderings ++ [r]) = r.toOption.getD (lastText first renderings) := by
  rw [lastText, List.filterMap_append]
  cases r with
  | error f => simp [Except.toOption, lastText]
  | ok text => simp [Except.toOption]

theorem zipWith_zipWith_self {α β γ δ : Type} (g : γ → β → δ) (f : α → β → γ) (as : List α) (bs : List β) :
    List.zipWith g (List.zipWith f as bs) bs = List.zipWith (fun a b => g (f a b) b) as bs := by
  induction as generalizing bs with
  | nil => rfl
  | cons a as ih =>
    cases bs with
    | nil => rfl
    | cons b bs => rw [List.zipWith_cons_cons, List.zipWith_cons_cons, List.zipWith_cons_cons, ih]

namespace Binding

/-- The binding after a trial: a text that was rendered is remembered. -/
def remember (b : Binding) (rendered : Except BindingFault String) : Binding :=
  { b with lastOutput := rendered.toOption.getD b.lastOutput }

def tried (b : Binding) : Except BindingFault String → Except BindingFault Settlement
  | .error f => .error f
  | .ok text => .ok (if text = b.lastOutput then .unchanged else .changed text)

theorem settle_tried (faults : AtomicWrite.Faults) (rendered : Except BindingFault String) (v : View) (b : Binding) :
    settle faults true rendered v b = (b.tried rendered, v, b.remember rendered) := by
  have hsettles := settles faults true rendered v b
  generalize settle faults true rendered v b = r at hsettles ⊢
  cases hsettles with
  | unrendered f => rfl
  | unchanged => simp [tried, remember, Except.toOption]
  | tried hne => simp [tried, remember, Except.toOption, hne]
  | failed _ hfalse | written _ hfalse => cases hfalse

theorem found_tried (b : Binding) {rendered : Except BindingFault String}
    (h : ∀ f, rendered = .error f → f.isOutput = false) :
    Status.Found b.lastOutput rendered (.of (b.tried rendered)) := by
  cases rendered with
  | error f =>
    rw [tried, Status.of_error_of_not_isOutput (h f rfl)]
    exact .renderFailed f
  | ok text =>
    by_cases hsame : text = b.lastOutput
    · rw [tried, if_pos hsame, hsame]
      exact .unchanged
    · rw [tried, if_neg hsame]
      exact .changed hsame

/-- What templates render, asked one after another. -/
def renderAll {α : Type} (w : Template.World α) : List Binding → α → List (Except BindingFault String)
  | [], _ => []
  | b :: bs, s => (b.render w s).1 :: renderAll w bs (b.render w s).2

theorem length_renderAll {α : Type} (w : Template.World α) (bs : List Binding) (s : α) :
    (renderAll w bs s).length = bs.length := by
  induction bs generalizing s with
  | nil => rfl
  | cons b bs ih => rw [renderAll, List.length_cons, List.length_cons, ih]

theorem renderAll_congr {α : Type} (w : Template.World α) {bs bs' : List Binding}
    (h : bs'.map Binding.program = bs.map Binding.program) (s : α) : renderAll w bs' s = renderAll w bs s := by
  induction bs generalizing bs' s with
  | nil => rw [List.map_eq_nil_iff.mp h]
  | cons b bs ih =>
    obtain ⟨b', rest, rfl, hb, hrest⟩ := List.map_eq_cons_iff.mp h
    rw [renderAll, renderAll, render_congr hb, ih hrest]

theorem renderAll_not_isOutput {α : Type} (w : Template.World α) (bs : List Binding) (s : α) {f : BindingFault}
    (h : .error f ∈ renderAll w bs s) : f.isOutput = false := by
  induction bs generalizing s with
  | nil => cases h
  | cons b bs ih =>
    rcases List.mem_cons.mp h with h | h
    · rw [render] at h
      split at h
      · cases h
      · cases h
        rfl
    · exact ih _ h

end Binding

theorem Site.Untouched.trans {σ : Type} {x y z : Site σ} (h : Untouched x y) (h' : Untouched y z) : Untouched x z :=
  ⟨h'.host.trans h.host, h'.working.trans h.working, h'.environment.trans h.environment, h'.epoch.trans h.epoch⟩

theorem Site.Untouched.world_eq {ρ σ : Type} {x y : Site σ} (h : Untouched x y) (l : Link ρ σ) :
    l.world y = l.world x := by
  rw [Link.world, Link.world, Site.seconds, Site.seconds, h.host, h.environment, h.epoch]

namespace Round

variable {ρ σ : Type} {l : Link ρ σ} {c : Config}

theorem visit_tried (htrial : c.dryRun = true) (faults : AtomicWrite.Faults) (x : Scene ρ σ) (b : Binding) :
    let r := b.render (l.world x.site) (x.memo, x.own, x.site.cluster)
    visit l faults c x b = ⟨b.remember r.1, b.tried r.1,
      ⟨{ x.site with cluster := r.2.2.2, printed := x.site.printed ++ printed c b.name (b.tried r.1) },
        r.2.1, r.2.2.1⟩⟩ := by
  rw [visit]
  generalize b.render (l.world x.site) (x.memo, x.own, x.site.cluster) = r
  obtain ⟨rendered, memo, own, cluster⟩ := r
  dsimp only
  rw [htrial, Binding.settle_tried]
  rfl

theorem visit_untouched (htrial : c.dryRun = true) (faults : AtomicWrite.Faults) (x : Scene ρ σ) (b : Binding) :
    x.site.Untouched (visit l faults c x b).scene.site := by
  rw [visit_tried htrial]
  exact ⟨rfl, rfl, rfl, rfl⟩

theorem visits_faults (htrial : c.dryRun = true) (faults faults' : AtomicWrite.Faults) (x : Scene ρ σ)
    (bs : List Binding) : visits l c faults x bs = visits l c faults' x bs := by
  induction bs generalizing faults faults' x with
  | nil => rfl
  | cons b bs ih =>
    have hfirst : visit l faults c x b = visit l faults' c x b := by
      rw [visit_tried htrial, visit_tried htrial]
    rw [visits, visits, hfirst, ih]

theorem visits_untouched (htrial : c.dryRun = true) (faults : AtomicWrite.Faults) (x : Scene ρ σ)
    (bs : List Binding) :
    (∀ y ∈ visits l c faults x bs, x.site.Untouched y.scene.site) ∧
      x.site.Untouched (sceneAfter x (visits l c faults x bs)).site := by
  induction bs generalizing faults x with
  | nil => exact ⟨nofun, rfl, rfl, rfl, rfl⟩
  | cons b bs ih =>
    have hfirst := visit_untouched (l := l) htrial faults x b
    obtain ⟨hvisits, hafter⟩ := ih (faults.drop 1) (visit l faults c x b).scene
    rw [visits]
    constructor
    · rw [List.forall_mem_cons]
      exact ⟨hfirst, fun y hy => hfirst.trans (hvisits y hy)⟩
    · rw [sceneAfter, List.map_cons, List.getLastD_cons]
      exact hfirst.trans hafter

theorem printed_tried (htrial : c.dryRun = true) (b : Binding) (r : Except BindingFault String) :
    printed c b.name (b.tried r) = announced (b.name, Status.of (b.tried r)) r := by
  cases r with
  | error f =>
    rw [announced]
    · rfl
    · simp
  | ok text =>
    rw [Binding.tried]
    split
    · rfl
    · rw [printed, if_pos htrial]
      rfl

theorem visits_tried (htrial : c.dryRun = true) (faults : AtomicWrite.Faults) (x : Scene ρ σ) (bs : List Binding) :
    let rs := Binding.renderAll (l.world x.site) bs (x.memo, x.own, x.site.cluster)
    let ys := visits l c faults x bs
    ys.map (fun y => (y.binding, y.result)) = bs.zipWith (fun b r => (b.remember r, b.tried r)) rs ∧
      (sceneAfter x ys).site.printed =
        x.site.printed ++ String.join (bs.zipWith (fun b r => printed c b.name (b.tried r)) rs) := by
  induction bs generalizing faults x with
  | nil => exact ⟨rfl, (String.append_empty).symm⟩
  | cons b bs ih =>
    have hworld := (visit_untouched (l := l) htrial faults x b).world_eq l
    obtain ⟨hresults, hprinted⟩ := ih (faults.drop 1) (visit l faults c x b).scene
    have hasked := visit_asked l faults c x b
    dsimp only at hasked
    rw [hworld, hasked] at hresults hprinted
    have hvisit := visit_tried (l := l) htrial faults x b
    dsimp only at hvisit ⊢
    rw [Binding.renderAll, visits]
    constructor
    · rw [List.map_cons, hresults, hvisit, List.zipWith_cons_cons]
    · rw [sceneAfter, List.map_cons, List.getLastD_cons, ← sceneAfter, hprinted, List.zipWith_cons_cons,
        String.join_cons, hvisit, String.append_assoc]

end Round

/-- A round to come: the site, and what belongs to the one who asks the cluster, as others leave them before it; which
steps of writing would fail; and how commands would be executed. -/
structure Turn (ρ σ : Type) where
  site : Site σ
  own : ρ
  faults : AtomicWrite.Faults
  execute : Scheduled → Site σ → CommandResult × Site σ

namespace Pipeline

open Round

variable {ρ σ : Type}

def facing (p : Pipeline ρ) (t : Turn ρ σ) : Pipeline ρ := { p with own := t.own }

def turn (l : Link ρ σ) (p : Pipeline ρ) (t : Turn ρ σ) : Report × Pipeline ρ × Site σ :=
  (p.facing t).round l t.faults t.execute t.site

def played (l : Link ρ σ) (p : Pipeline ρ) (turns : List (Turn ρ σ)) : Pipeline ρ :=
  turns.foldl (fun p t => (p.turn l t).2.1) p

def renderings (l : Link ρ σ) (p : Pipeline ρ) (t : Turn ρ σ) : List (Except BindingFault String) :=
  Binding.renderAll (l.world t.site) p.bindings (Memo.empty, t.own, t.site.cluster)

def column (l : Link ρ σ) (p : Pipeline ρ) (i : Nat) (turns : List (Turn ρ σ)) : List (Except BindingFault String) :=
  turns.filterMap fun t => (p.renderings l t)[i]?

variable {l : Link ρ σ} {p : Pipeline ρ}

theorem played_concat (l : Link ρ σ) (p : Pipeline ρ) (turns : List (Turn ρ σ)) (t : Turn ρ σ) :
    p.played l (turns ++ [t]) = ((p.played l turns).turn l t).2.1 := by
  rw [played, List.foldl_append]
  rfl

theorem renderings_congr {q : Pipeline ρ} (h : q.bindings.map Binding.program = p.bindings.map Binding.program)
    (t : Turn ρ σ) : q.renderings l t = p.renderings l t := Binding.renderAll_congr _ h _

theorem exists_rendering (l : Link ρ σ) (t : Turn ρ σ) {i : Nat} {b : Binding} (h : p.bindings[i]? = some b) :
    ∃ r, (p.renderings l t)[i]? = some r := by
  obtain ⟨hi, -⟩ := List.getElem?_eq_some_iff.mp h
  rw [← Binding.length_renderAll (l.world t.site) p.bindings (Memo.empty, t.own, t.site.cluster)] at hi
  exact ⟨_, List.getElem?_eq_getElem hi⟩

theorem column_concat {turns : List (Turn ρ σ)} {t : Turn ρ σ} {i : Nat} {r : Except BindingFault String}
    (h : (p.renderings l t)[i]? = some r) : p.column l i (turns ++ [t]) = p.column l i turns ++ [r] := by
  simp only [column, List.filterMap_append, List.filterMap_cons, List.filterMap_nil, h]

theorem turn_tried (l : Link ρ σ) (htrial : p.config.dryRun = true) (t : Turn ρ σ) :
    let rs := p.renderings l t
    let report := (p.turn l t).1
    (p.turn l t).2.1.config = p.config ∧ (p.turn l t).2.1.bindings = p.bindings.zipWith Binding.remember rs ∧
      t.site.Untouched (p.turn l t).2.2 ∧ report.commands = [] ∧
      report.templates = p.bindings.zipWith (fun b r => (b.name, Status.of (b.tried r))) rs ∧
      (p.turn l t).2.2.printed = t.site.printed ++
        String.join (report.templates.zipWith announced rs) ++
          String.join (report.skipped.map commandAnnouncement) := by
  intro rs report
  obtain ⟨hvisits, hprinted⟩ := visits_tried (l := l) htrial t.faults ((p.facing t).flush.scene t.site) p.bindings
  obtain ⟨-, huntouched⟩ := visits_untouched (l := l) htrial t.faults ((p.facing t).flush.scene t.site) p.bindings
  have hbindings := congrArg (List.map Prod.fst) hvisits
  have htemplates := congrArg (List.map fun y => (y.1.name, Status.of y.2)) hvisits
  rw [List.map_map, List.map_zipWith] at hbindings htemplates
  have hround := round_eq l t.faults t.execute (p.facing t) t.site
  dsimp only at hround
  rw [show (p.facing t).config.dryRun = true from htrial, if_pos rfl, ← turn] at hround
  have hreport : report = _ := congrArg Prod.fst hround
  have hfound : report.templates = p.bindings.zipWith (fun b r => (b.name, Status.of (b.tried r))) rs := by
    rw [hreport]
    exact htemplates
  simp only [printed_tried htrial] at hprinted
  rw [hfound, zipWith_zipWith_self, hreport, hround]
  refine ⟨rfl, hbindings, ?_, rfl, rfl, ?_⟩
  · exact ⟨huntouched.host, huntouched.working, huntouched.environment, huntouched.epoch⟩
  · rw [List.map_map]
    exact congrArg (· ++ _) hprinted

theorem map_program_eq {bs bs' : List Binding} {text : Nat → Binding → String}
    (h : ∀ i, bs'[i]? = bs[i]?.map fun b : Binding => { b with lastOutput := text i b }) :
    bs'.map Binding.program = bs.map Binding.program := by
  refine List.ext_getElem? fun i => ?_
  rw [List.getElem?_map, List.getElem?_map, h, Option.map_map]
  rfl

/-- What a pipeline that tries is after rounds: each binding remembers the text that its template rendered last. -/
theorem played_tried (l : Link ρ σ) (htrial : p.config.dryRun = true) (turns : List (Turn ρ σ)) :
    (p.played l turns).config = p.config ∧ ∀ i, (p.played l turns).bindings[i]? =
      p.bindings[i]?.map fun b : Binding => { b with lastOutput := lastText b.lastOutput (p.column l i turns) } := by
  induction turns using List.reverseRecOn with
  | nil =>
    refine ⟨rfl, fun i => ?_⟩
    cases hb : p.bindings[i]? <;> exact hb
  | append_singleton turns t ih =>
    obtain ⟨hconfig, hbindings⟩ := ih
    have hprograms := map_program_eq hbindings
    obtain ⟨hconfig', hbindings', -⟩ := turn_tried l (hconfig ▸ htrial) t
    rw [played_concat]
    refine ⟨hconfig'.trans hconfig, fun i => ?_⟩
    rw [hbindings', List.getElem?_zipWith, renderings_congr hprograms, hbindings]
    cases hb : p.bindings[i]? with
    | none => rfl
    | some b =>
      obtain ⟨r, hr⟩ := exists_rendering l t hb
      rw [column_concat hr, hr, Option.map_some, Option.map_some, lastText_concat]
      rfl

theorem getElem?_bindings_of_build {hasWorkers : Bool} {v : View} {c : Config} {own : ρ}
    (h : build hasWorkers v c own = .ok p) : p.config = c ∧ p.bindings.length = c.templates.length ∧
      ∀ (i : Nat) (d : Descriptor), c.templates[i]? = some d → ∃ b : Binding, p.bindings[i]? = some b ∧ b.descriptor = d ∧
        b.lastOutput = Binding.existing v d.output := by
  rw [build] at h
  split at h
  · cases h
  split at h
  · cases h
  · next bs hbs =>
    cases h
    have hloads := Run.mapM_eq_ok_iff.mp hbs
    refine ⟨rfl, hloads.length_eq.symm, fun i d hd => ?_⟩
    obtain ⟨hi, rfl⟩ := List.getElem?_eq_some_iff.mp hd
    have hi' : i < bs.length := hloads.length_eq ▸ hi
    obtain ⟨_, program, -, -, hb⟩ := Binding.load_eq_ok_iff.mp (hloads.get hi hi')
    exact ⟨_, List.getElem?_eq_getElem hi', congrArg Binding.descriptor hb, congrArg Binding.lastOutput hb⟩

theorem turn_irrelevant (l : Link ρ σ) (htrial : p.config.dryRun = true) (t : Turn ρ σ)
    (faults : AtomicWrite.Faults) (execute : Scheduled → Site σ → CommandResult × Site σ) :
    p.turn l { t with faults := faults, execute := execute } = p.turn l t := by
  have hvisits : (p.facing t).visits l faults t.site = (p.facing t).visits l t.faults t.site :=
    visits_faults htrial faults t.faults _ _
  have hround := round_eq l faults execute (p.facing t) t.site
  have hround' := round_eq l t.faults t.execute (p.facing t) t.site
  dsimp only at hround hround'
  rw [show (p.facing t).config.dryRun = true from htrial, if_pos rfl] at hround hround'
  rw [hvisits, ← hround'] at hround
  exact hround

/-- In every round of a pipeline that tries, whatever others did before it to the files, the cluster and the time:
nothing happens to the machine, not even between two templates; no command is executed, and it makes no difference how
one would be, nor which steps of writing would fail. A template is found changed exactly if its text differs from the
one that it rendered last, in the latest earlier round in which it rendered one; before that, from the text of its
output when the pipeline was built, or from the empty text where none could be read. The texts that changed are printed,
and the commands that are left out. -/
theorem trials_leave_machine_and_find_each_change_once (l : Link ρ σ) {hasWorkers : Bool} {v : View} {c : Config}
    {own : ρ} {p : Pipeline ρ} (hbuild : build hasWorkers v c own = .ok p) (htrial : c.dryRun = true)
    (turns : List (Turn ρ σ)) (t : Turn ρ σ) :
    let q := p.played l turns
    let report := (q.turn l t).1
    let x := (q.turn l t).2.2
    t.site.Untouched x ∧ (∀ y ∈ (q.facing t).visits l t.faults t.site, t.site.Untouched y.scene.site) ∧
      report.commands = [] ∧
      (∀ faults execute, q.turn l { t with faults := faults, execute := execute } = q.turn l t) ∧
      report.templates.length = c.templates.length ∧
      (∀ (i : Nat) (d : Descriptor), c.templates[i]? = some d →
        ∃ r name status, (p.renderings l t)[i]? = some r ∧ report.templates[i]? = some (name, status) ∧
          Status.Found (lastText (Binding.existing v d.output) (p.column l i turns)) r status) ∧
      x.printed = t.site.printed ++ String.join (report.templates.zipWith announced (p.renderings l t)) ++
        String.join (report.skipped.map commandAnnouncement) := by
  intro q report x
  obtain ⟨rfl, hlength, hfirst⟩ := getElem?_bindings_of_build hbuild
  obtain ⟨hconfig, hbindings⟩ := played_tried l htrial turns
  have htrial' : q.config.dryRun = true := hconfig ▸ htrial
  have hprograms : q.bindings.map Binding.program = p.bindings.map Binding.program := map_program_eq hbindings
  obtain ⟨-, -, huntouched, hcommands, htemplates, hprinted⟩ := turn_tried l htrial' t
  rw [renderings_congr hprograms] at htemplates hprinted
  have hlengths : q.bindings.length = p.bindings.length := by
    simpa using congrArg List.length hprograms
  refine ⟨huntouched, (visits_untouched htrial' t.faults _ q.bindings).1, hcommands, turn_irrelevant l htrial' t, ?_,
    fun i d hd => ?_, hprinted⟩
  · rw [htemplates, List.length_zipWith, renderings, Binding.length_renderAll, hlengths, hlength, Nat.min_self]
  · obtain ⟨b, hb, -, hlast⟩ := hfirst i d hd
    obtain ⟨r, hr⟩ := exists_rendering l t hb
    let now : Binding := { b with lastOutput := lastText (Binding.existing v d.output) (p.column l i turns) }
    have hnow : q.bindings[i]? = some now := by
      rw [hbindings i, hb, Option.map_some, hlast]
    refine ⟨r, now.name, Status.of (now.tried r), hr, ?_, now.found_tried fun f hf => ?_⟩
    · rw [htemplates, List.getElem?_zipWith, hnow, hr]
    · exact Binding.renderAll_not_isOutput _ p.bindings _ (hf ▸ List.mem_of_getElem? hr)

/-- A template counts pods, and none were counted in its output. A pod is a change, and no change any more after a round
in which the pods could not be listed. Then none is a change. -/
theorem trial_finds_pod_once :
    let c : Config := { Config.initial with dryRun := true, templates := [⟨"/t", "/o", some "r", none⟩] }
    let source := "\x7b\x7b pods() | length \x7d\x7d"
    let tree : Tree := ⟨[(["t"], .file 0o644 (Text.Utf8.encode source)), (["o"], .file 0o644 [48])]⟩
    let pod : Object := .obj [("metadata", .obj [("name", .str "p"), ("namespace", .str "default")])]
    let turn (pods : List Object) (failing : List Kind) : Turn Unit Inventory :=
      ⟨⟨.start tree, [], [], 0, ⟨fun k => if k = .pods then pods else [], failing, []⟩, ""⟩, (), AtomicWrite.noFaults,
        fun _ x => (.ok (), x.withTree ⟨[]⟩)⟩
    ∃ p, build true ⟨tree, []⟩ c () = .ok p ∧
      let found (before : List (Turn Unit Inventory)) (t : Turn Unit Inventory) :=
        ((p.played .inventory before).turn .inventory t).1.templates.map fun t => t.2.isChange
      found [] (turn [] []) = [false] ∧ found [] (turn [pod] []) = [true] ∧
        found [turn [pod] [], turn [pod] [.pods]] (turn [pod] []) = [false] ∧
        found [turn [pod] [], turn [pod] [.pods]] (turn [] []) = [true] ∧
        ((p.played .inventory []).turn .inventory (turn [pod] [])).2.2.host.tree = tree := by
  intro c source tree pod turn
  -- the program is too large to be written down, so its texts are evaluated together with the build
  have hrun : (match build true ⟨tree, []⟩ c () with
      | .ok p => decide
          ((p.renderings .inventory (turn [] [])).map Except.toOption = [some "0"] ∧
            (p.renderings .inventory (turn [pod] [])).map Except.toOption = [some "1"] ∧
            lastText "0" (p.column .inventory 0 [turn [pod] [], turn [pod] [.pods]]) = "1")
      | .error _ => false) = true := by
    decide +kernel
  have hold : Binding.existing ⟨tree, []⟩ "/o" = "0" := by decide +kernel
  cases hbuild : build true ⟨tree, []⟩ c () with
  | error f =>
    rw [hbuild] at hrun
    cases hrun
  | ok p =>
    rw [hbuild] at hrun
    obtain ⟨hnone, hone, hlast⟩ := of_decide_eq_true hrun
    have hfound (before : List (Turn Unit Inventory)) (t : Turn Unit Inventory) (reference text : String)
        (hreference : lastText "0" (p.column .inventory 0 before) = reference)
        (htext : (p.renderings .inventory t).map Except.toOption = [some text]) :
        (((p.played .inventory before).turn .inventory t).1.templates.map fun t => t.2.isChange) =
          [decide (text ≠ reference)] := by
      obtain ⟨-, -, -, -, hlength, hstatuses, -⟩ :=
        trials_leave_machine_and_find_each_change_once .inventory hbuild rfl before t
      obtain ⟨r, name, status, hr, hstatus, hfound⟩ := hstatuses 0 _ rfl
      rw [hold, hreference] at hfound
      have hr' : r.toOption = some text := by
        have hfirst := congrArg (·[0]?) htext
        simpa [hr] using hfirst
      obtain ⟨only, honly⟩ := List.length_eq_one_iff.mp hlength
      rw [honly] at hstatus ⊢
      obtain rfl : only = (name, status) := by simpa using hstatus
      cases hfound with
      | unchanged =>
        obtain rfl : reference = text := Option.some.inj hr'
        simp [Status.isChange]
      | changed hne =>
        obtain rfl := Option.some.inj hr'
        simp [Status.isChange, hne]
      | renderFailed => cases hr'
    have huntouched := (trials_leave_machine_and_find_each_change_once .inventory hbuild rfl [] (turn [pod] [])).1
    exact ⟨p, rfl, hfound [] _ "0" "0" rfl hnone, hfound [] _ "0" "1" rfl hone, hfound _ _ "1" "1" hlast hone,
      hfound _ _ "1" "0" hlast hnone, congrArg Machine.Host.tree huntouched.host⟩

end Pipeline

end Stencil.Upkeep
