import Stencil.Proofs.Filesystem.Separate
import Stencil.Proofs.Upkeep.Round
import Stencil.Proofs.Upkeep.Succession

set_option autoImplicit false
set_option relaxedAutoImplicit false

/-!
What a keeper that took over reports of outputs that it has not written. Its bindings were loaded while the keeper
before it was still at work. Main statement: where such a keeper finds a text unchanged, the output holds that
text, or it still holds what it held at the handover, which is not what had been read when the binding was loaded.
-/

namespace Stencil.Upkeep

open Stencil.Filesystem

variable {ρ σ : Type}

namespace Binding

/-- The output holds what the binding remembers, or both are as they were at an earlier time. -/
def AgreesSince (v₀ : View) (b₀ : Binding) (v : View) (b : Binding) : Prop :=
  b.descriptor = b₀.descriptor ∧
    (Agrees v b ∨ b.lastOutput = b₀.lastOutput ∧
      v.readText b₀.descriptor.output = v₀.readText b₀.descriptor.output)

variable {v₀ v w : View} {b₀ b : Binding}

theorem AgreesSince.refl (v : View) (b : Binding) : AgreesSince v b v b := ⟨rfl, .inr ⟨rfl, rfl⟩⟩

theorem AgreesSince.congr (h : AgreesSince v₀ b₀ v b)
    (hw : w.readText b₀.descriptor.output = v.readText b₀.descriptor.output) : AgreesSince v₀ b₀ w b := by
  obtain ⟨hd, hor⟩ := h
  refine ⟨hd, hor.imp (fun ha => ?_) fun ⟨hl, hr⟩ => ⟨hl, hw.trans hr⟩⟩
  rw [Agrees, hd] at ha ⊢
  exact hw.trans ha

theorem rendered_of_unchanged {faults : AtomicWrite.Faults} {trial : Bool} {rendered : Except BindingFault String}
    (h : (settle faults trial rendered v b).1 = .ok .unchanged) :
    rendered = .ok b.lastOutput ∧ settle faults trial rendered v b = (.ok .unchanged, v, b) := by
  have hsettles := settles faults trial rendered v b
  generalize settle faults trial rendered v b = r at h hsettles ⊢
  cases hsettles with
  | unchanged => exact ⟨rfl, rfl⟩
  | unrendered | tried | failed | written => cases h

/-- What becomes of the outputs when a text is brought to one of them. -/
structure SettledAside (v₀ : View) (b₀ : Binding) (paths : List String) (v w : View) (c : Binding) : Prop where
  working : w.working = v.working
  separate : w.Separate paths
  others : ∀ o ∈ paths, o ≠ b₀.descriptor.output → w.readText o = v.readText o
  agrees : AgreesSince v₀ b₀ w c

theorem settle_aside {paths : List String} (hs : v.Separate paths) (hb : AgreesSince v₀ b₀ v b)
    (hpath : b₀.descriptor.output ∈ paths) (faults : AtomicWrite.Faults)
    (rendered : Except BindingFault String) :
    SettledAside v₀ b₀ paths v (settle faults false rendered v b).2.1 (settle faults false rendered v b).2.2 := by
  have hsettles := settles faults false rendered v b
  generalize settle faults false rendered v b = r at hsettles ⊢
  have hpath' : b.descriptor.output ∈ paths := hb.1 ▸ hpath
  have haside := fun text => AtomicWrite.write_aside hs hpath' faults text
  have hothers : ∀ text, ∀ o ∈ paths, o ≠ b₀.descriptor.output →
      (AtomicWrite.write faults v b.descriptor.output text).view.readText o = v.readText o :=
    fun text o ho hne => View.readText_congr ((haside text).others o ho (hb.1 ▸ hne))
  cases hsettles with
  | unrendered | unchanged => exact ⟨rfl, hs, fun _ _ _ => rfl, hb⟩
  | tried _ htrial => cases htrial
  | @failed text _ _ _ hf =>
    have hkept := View.readText_congr ((haside text).failed (hf ▸ Option.some_ne_none _))
    exact ⟨(haside text).working, (haside text).separate, hothers text, hb.congr (hb.1 ▸ hkept)⟩
  | @written text _ _ hf =>
    obtain ⟨s, hread⟩ := hs.readable _ hpath'
    have hagrees := (AtomicWrite.write_readable hread faults text).1 hf
    exact ⟨(haside text).working, (haside text).separate, hothers text, hb.1, .inl hagrees⟩

end Binding

namespace Keeper

/-- The bindings of a keeper as they are now, in a template phase those that it has visited and those that are
left. -/
def held (k : Keeper ρ) : List Binding :=
  match k.stage? with
  | some (.templates r left) => r.bindings ++ left
  | _ => k.pipeline.bindings

theorem held_of_visits {k : Keeper ρ} {r : Round} {left : List Binding}
    (hs : k.stage? = some (.templates r left)) : k.held = r.bindings ++ left := by
  rw [held, hs]

/-- A move leaves the files and all bindings as they are, unless it is a visit, which settles one of them. -/
theorem Move.held {l : Link ρ σ} {faults : AtomicWrite.Faults} {k k' : Keeper ρ} {x y : Site σ}
    (h : Move l faults k x k' y) (hrun : k.pipeline.config.dryRun = false) :
    (k'.held = k.held ∧ y.view = x.view) ∨
      ∃ (i : Nat) (b : Binding) (faults' : AtomicWrite.Faults),
        let r := Binding.settle faults' false (Round.rendered l (k.pipeline.scene x) b) x.view b
        k.held[i]? = some b ∧ k'.held = k.held.set i r.2.2 ∧ y.view = ⟨r.2.1.tree, x.working⟩ := by
  cases h with
  | starts hs | ticks hs => exact .inl ⟨by simp [Keeper.held, inRound, Round.start, hs], rfl⟩
  | ceases hs => exact .inl ⟨rfl, rfl⟩
  | @visits r b left y hs hy hw =>
    subst hy
    obtain ⟨-, hbinding, hview⟩ :=
      Round.visit_settle l (faults.drop r.templates.length) k.pipeline.config (k.pipeline.scene x) b
    rw [hrun] at hbinding hview
    refine .inr ⟨r.bindings.length, b, faults.drop r.templates.length, ?_, ?_, hview⟩
    · rw [held_of_visits hs]
      simp
    · rw [held_of_visits hs, held_of_visits rfl, hbinding]
      simp [Round.record, Pipeline.scene]
  | rehearses hs hdry => cases hrun.symm.trans hdry
  | turns hs => exact .inl ⟨by simp [Keeper.held, withBindings, hs], rfl⟩
  | concludes hs => exact .inl ⟨by simp [Keeper.held, concluded, hs], rfl⟩
  | refuses hs | notes hs => exact .inl ⟨by simp [Keeper.held, hs], rfl⟩
  | launches hs hm => exact .inl ⟨by simp [Keeper.held, hs], Running.view_start hm⟩
  | attends hs _ hm => exact .inl ⟨by simp [Keeper.held, hs], Running.view_move? hm⟩

end Keeper

def Pipeline.outputs (p : Pipeline ρ) : List String := p.bindings.map (·.descriptor.output)

def Site.LeavesAlone (paths : List String) (x y : Site σ) : Prop := ∀ o ∈ paths, y.view.entry o = x.view.entry o

/-- A keeper that has taken over a pipeline keeps up its outputs at different places, and each output agrees with
its binding, or both are as they were at the handover. -/
structure Tends (p : Pipeline ρ) (v₀ : View) (k : Keeper ρ) (v : View) : Prop where
  config : k.pipeline.config = p.config
  separate : v.Separate p.outputs
  held : ∀ (i : Nat) (b : Binding), k.held[i]? = some b →
    ∃ b₀, p.bindings[i]? = some b₀ ∧ Binding.AgreesSince v₀ b₀ v b

section Tending

variable {l : Link ρ σ} {p : Pipeline ρ} {v₀ v w : View} {k k' : Keeper ρ} {x y : Site σ}
  {faults : AtomicWrite.Faults}

theorem output_mem_outputs {i : Nat} {b : Binding} (h : p.bindings[i]? = some b) :
    b.descriptor.output ∈ p.outputs :=
  List.mem_map_of_mem (List.mem_of_getElem? h)

theorem tends_ofPipeline (h : v.Separate p.outputs) : Tends p v (Keeper.ofPipeline p) v :=
  ⟨rfl, h, fun _ b hb => ⟨b, hb, .refl v b⟩⟩

theorem Tends.stop (h : Tends p v₀ k v) (l : Link ρ σ) : Tends p v₀ (Keeper.stop l k) v :=
  ⟨h.config, h.separate, h.held⟩

theorem Tends.congr (h : Tends p v₀ k v) (hw : ∀ o ∈ p.outputs, w.entry o = v.entry o) : Tends p v₀ k w := by
  refine ⟨h.config, h.separate.congr hw, fun i b hb => ?_⟩
  obtain ⟨b₀, hb₀, hsince⟩ := h.held i b hb
  exact ⟨b₀, hb₀, hsince.congr (View.readText_congr (hw _ (output_mem_outputs hb₀)))⟩

theorem output_ne_of_ne (h : v.Separate p.outputs) {i j : Nat} {b c : Binding} (hb : p.bindings[i]? = some b)
    (hc : p.bindings[j]? = some c) (hij : i ≠ j) : c.descriptor.output ≠ b.descriptor.output := by
  have hi : p.outputs[i]? = some b.descriptor.output := by simp [Pipeline.outputs, hb]
  have hj : p.outputs[j]? = some c.descriptor.output := by simp [Pipeline.outputs, hc]
  intro he
  obtain ⟨hlt, -⟩ := List.getElem?_eq_some_iff.mp hi
  exact hij ((List.getElem?_inj hlt h.nodup).mp (hi.trans (he ▸ hj.symm)))

theorem Tends.move (h : Tends p v₀ k x.view) (hrun : p.config.dryRun = false)
    (hm : Keeper.Move l faults k x k' y) : Tends p v₀ k' y.view := by
  have hconfig := hm.config_eq.trans h.config
  rcases hm.held (h.config ▸ hrun) with ⟨hheld, hview⟩ | ⟨i, b, faults', hb, hheld, hview⟩
  · rw [hview]
    exact ⟨hconfig, h.separate, hheld ▸ h.held⟩
  · obtain ⟨b₀, hb₀, hsince⟩ := h.held i b hb
    have haside := Binding.settle_aside h.separate hsince (output_mem_outputs hb₀) faults'
      (Round.rendered l (k.pipeline.scene x) b)
    generalize Binding.settle faults' false (Round.rendered l (k.pipeline.scene x) b) x.view b = r
      at hheld hview haside
    have hw : y.view = r.2.1 := by
      rw [hview]
      exact congrArg (View.mk r.2.1.tree) haside.working.symm
    rw [hw]
    refine ⟨hconfig, haside.separate, fun j c hc => ?_⟩
    rw [hheld, List.getElem?_set] at hc
    split at hc
    · next hij =>
      subst hij
      split at hc
      · cases hc
        exact ⟨b₀, hb₀, haside.agrees⟩
      · cases hc
    · next hij =>
      obtain ⟨c₀, hc₀, hc⟩ := h.held j c hc
      exact ⟨c₀, hc₀, hc.congr (haside.others _ (output_mem_outputs hc₀)
        (output_ne_of_ne h.separate hb₀ hc₀ hij))⟩

open Situation in
theorem Tends.happens {e : Happening ρ σ} {m m' : Situation ρ σ} (h : Tends p v₀ m.1.current m.2.view)
    (hrun : p.config.dryRun = false) (ho : Orderly m.1) (he : Happens l e m m') (hsame : e ≠ .handsOver)
    (hothers : ∀ y, e = .elsewhere y → Site.LeavesAlone p.outputs m.2 y) :
    Tends p v₀ m'.1.current m'.2.view := by
  cases he with
  | asks | closes | hearsReload | cannotBuild | ends => exact h
  | hearsStop | hearsClosure | builds => exact h.stop l
  | handsOver => exact absurd rfl hsame
  | works hm => exact h.move hrun (Keeper.move_of_moveUnder? hm)
  | stirs hk hm => exact (ho.not_stirs (.stirs hk hm)).elim
  | elsewhere _ _ y => exact h.congr (hothers y rfl)

end Tending

namespace Situation

theorem Course.tends {l : Link ρ σ} {p : Pipeline ρ} {v₀ : View} {es : List (Happening ρ σ)}
    {m m' : Situation ρ σ} (h : Course l (Site.LeavesAlone p.outputs) m es m') (hrun : p.config.dryRun = false)
    (hlast : .handsOver ∉ es) (ho : Orderly m.1) (hm : Tends p v₀ m.1.current m.2.view) :
    Tends p v₀ m'.1.current m'.2.view := by
  have hboth : Orderly m'.1 ∧ Tends p v₀ m'.1.current m'.2.view := by
    refine h.keeps (P := fun m => Orderly m.1 ∧ Tends p v₀ m.1.current m.2.view) ?_ ⟨ho, hm⟩
    rintro e n n' hmem he hothers ⟨ho, hn⟩
    exact ⟨ho.happens he, hn.happens hrun ho he (fun hsame => hlast (hsame ▸ hmem)) hothers⟩
  exact hboth.2

theorem Course.handingOver {l : Link ρ σ} {others : Site σ → Site σ → Prop} {p : Pipeline ρ}
    {es : List (Happening ρ σ)} {m m' : Situation ρ σ} (h : Course l others m (.builds (some p) :: es) m')
    (hlast : .handsOver ∉ es) : m'.1.duty = .handingOver (Keeper.ofPipeline p) := by
  cases h with
  | cons he _ h =>
    refine h.keeps (P := fun m => m.1.duty = .handingOver (Keeper.ofPipeline p)) ?_ ?_
    · intro e n n' hmem he _ hd
      cases he with
      | asks | closes | works | stirs | elsewhere => exact hd
      | hearsReload _ hd' | hearsStop _ hd' | hearsClosure _ hd' | builds _ _ hd' | cannotBuild _ hd' | ends _ hd' =>
        cases hd.symm.trans hd'
      | handsOver => exact absurd hmem hlast
    · have hbuilds := happens_of_happen? he
      cases hbuilds
      rfl

/-- A keeper that took over finds a text unchanged only where the output holds that text, or where the output still
holds what it held at the handover, and this is not what the binding was loaded with. -/
theorem unchanged_output_holds_text_or_was_written_since_loaded {l : Link ρ σ}
    {others : Site σ → Site σ → Prop} {first p : Pipeline ρ} {x₀ x : Site σ} {s : Supervision (Keeper ρ)}
    {as bs es : List (Happening ρ σ)} {m : Situation ρ σ} {r : Round} {b : Binding} {left : List Binding}
    (hbefore : Course l others (start first x₀) (as ++ .builds (some p) :: bs) (s, x)) (hfirst : .handsOver ∉ bs)
    (hrun : p.config.dryRun = false) (hseparate : x.view.Separate p.outputs)
    (hafter : Course l (Site.LeavesAlone p.outputs) (s, x) (.handsOver :: es) m) (hlast : .handsOver ∉ es)
    (hstage : m.1.current.stage? = some (.templates r (b :: left))) (faults : AtomicWrite.Faults) :
    let scene := m.1.current.pipeline.scene m.2
    let y := Round.visit l faults m.1.current.pipeline.config scene b
    y.result = .ok .unchanged →
      ∃ b₀ text, p.bindings[r.bindings.length]? = some b₀ ∧ b.descriptor = b₀.descriptor ∧
        Round.rendered l scene b = .ok text ∧ y.scene.site.view = m.2.view ∧
        (m.2.view.readText b₀.descriptor.output = .ok text ∨
          text = b₀.lastOutput ∧
            m.2.view.readText b₀.descriptor.output = x.view.readText b₀.descriptor.output ∧
            x.view.readText b₀.descriptor.output ≠ .ok b₀.lastOutput) := by
  intro scene y hunchanged
  have horderly := hbefore.orderly (orderly_start first x₀)
  obtain ⟨n, -, hbuilt⟩ := hbefore.exists_between
  have hnext := hbuilt.handingOver hfirst
  have htends : Tends p x.view m.1.current m.2.view := by
    cases hafter with
    | cons he _ hafter =>
      have hhappens := happens_of_happen? he
      have ho := horderly.happens hhappens
      cases hhappens with
      | handsOver _ hd _ =>
        cases hnext.symm.trans hd
        exact hafter.tends hrun hlast ho (tends_ofPipeline hseparate)
  have hb : m.1.current.held[r.bindings.length]? = some b := by
    rw [Keeper.held_of_visits hstage]
    simp
  obtain ⟨b₀, hb₀, hdescriptor, hsince⟩ := htends.held _ b hb
  obtain ⟨hresult, -, hview⟩ := Round.visit_settle l faults m.1.current.pipeline.config scene b
  obtain ⟨htext, hsettle⟩ := Binding.rendered_of_unchanged (hresult.symm.trans hunchanged)
  rw [hsettle] at hview
  refine ⟨b₀, b.lastOutput, hb₀, hdescriptor, htext, hview, ?_⟩
  rw [Binding.Agrees, hdescriptor] at hsince
  rcases hsince with hagrees | ⟨hlastOutput, hkept⟩
  · exact .inl hagrees
  · by_cases hread : x.view.readText b₀.descriptor.output = .ok b₀.lastOutput
    · exact .inl (hkept.trans (hlastOutput ▸ hread))
    · exact .inr ⟨hlastOutput, hkept, hread⟩

/-- The current keeper is about to find the text of a template unchanged. -/
def findsUnchanged (l : Link ρ σ) (m : Situation ρ σ) : Bool :=
  match m.1.current.stage? with
  | some (.templates _ (b :: _)) =>
    match (Round.visit l AtomicWrite.noFaults m.1.current.pipeline.config (m.1.current.pipeline.scene m.2) b).result with
    | .ok .unchanged => true
    | _ => false
  | _ => false

/-- Where no output was written since the next keeper was built, that keeper finds the text unchanged that the output
holds. -/
theorem unchanged_output_holds_text_after_quiet_handover :
    let x : Site Cluster.Inventory := ⟨.start ⟨[(["o"], .file 0o644 [49])]⟩, [], [], 0, .empty, ""⟩
    let b : Binding := ⟨⟨"/t", "/o", none, none⟩, ⟨"t", [.text ['1']], [], []⟩, "1"⟩
    let p : Pipeline Unit := ⟨.initial, [b], .empty, ()⟩
    let work : Happening Unit Cluster.Inventory := .works AtomicWrite.noFaults
    let es := [work, .asks .reload, .hears (some .reload), .builds (some p), work, work, work, work]
    ∃ m n r c left, run? .inventory es (start p x) = some m ∧ run? .inventory [.handsOver, work] m = some n ∧
      n.1.current.stage? = some (.templates r (c :: left)) ∧
      ∃ text, Round.rendered .inventory (n.1.current.pipeline.scene n.2) c = .ok text ∧
        n.2.view.readText "/o" = .ok text := by
  intro x b p work es
  have hrun : (run? .inventory es (start p x)).bind (fun m => (run? .inventory [.handsOver, work] m).map fun n =>
      (m.2.view, n.findsUnchanged .inventory)) = some (x.view, true) := by decide +kernel
  obtain ⟨m, hm, hrun⟩ := Option.bind_eq_some_iff.mp hrun
  obtain ⟨n, hn, hfound⟩ := Option.map_eq_some_iff.mp hrun
  obtain ⟨hview, hfound⟩ := Prod.mk.inj hfound
  have hread : x.view.readText "/o" = .ok "1" := by decide +kernel
  have hseparate : m.2.view.Separate p.outputs := by
    rw [hview]
    refine ⟨by decide, fun o ho => ?_, fun a ha c hc hac => ?_⟩
    · obtain rfl := List.mem_singleton.mp ho
      exact ⟨"1", hread⟩
    · exact absurd ((List.mem_singleton.mp ha).trans (List.mem_singleton.mp hc).symm) hac
  have hbefore : Course .inventory (fun _ _ => True) (start p x)
      ([work, .asks .reload, .hears (some .reload)] ++ .builds (some p) :: [work, work, work, work])
      (m.1, m.2) := course_of_run? hm (by simp [work])
  have hafter : Course .inventory (Site.LeavesAlone p.outputs) (m.1, m.2) [.handsOver, work] n :=
    course_of_run? hn (by simp [work])
  rw [findsUnchanged] at hfound
  split at hfound
  · next r c left hstage =>
    split at hfound
    · next hunchanged =>
      obtain ⟨b₀, text, hb₀, -, htext, -, hholds⟩ :=
        unchanged_output_holds_text_or_was_written_since_loaded hbefore (by simp [work]) rfl hseparate hafter
          (by simp [work]) hstage AtomicWrite.noFaults hunchanged
      obtain rfl := List.mem_singleton.mp (List.mem_of_getElem? hb₀)
      refine ⟨m, n, r, c, left, hm, hn, hstage, text, htext, hholds.resolve_right ?_⟩
      rintro ⟨-, -, hwritten⟩
      exact hwritten (hview ▸ hread)
    · cases hfound
  · cases hfound

/-- An output that is written after the next keeper was built, and before it takes over, is found unchanged by that
keeper, though the text that it renders is not the one that the output holds. -/
theorem rewritten_output_found_unchanged :
    let x : Site Cluster.Inventory :=
      ⟨.start ⟨[(["s"], .file 0o644 [49]), (["o"], .file 0o644 [49])]⟩, [], [], 0, .empty, ""⟩
    let old : Binding := ⟨⟨"/t", "/o", none, none⟩, ⟨"t", [.text ['2']], [], []⟩, "1"⟩
    let new : Binding := ⟨⟨"/s", "/o", none, none⟩, ⟨"s", [.text ['1']], [], []⟩, "1"⟩
    let p (b : Binding) : Pipeline Unit := ⟨.initial, [b], .empty, ()⟩
    let work : Happening Unit Cluster.Inventory := .works AtomicWrite.noFaults
    let es := [work, .asks .reload, .hears (some .reload)]
    (run? .inventory es (start (p old) x)).map (·.2.view) = some x.view ∧
      Binding.load x.view .usual new.descriptor = .ok new ∧
      (∀ scene, Round.rendered .inventory scene new = .ok "1") ∧
      (run? .inventory (es ++ [.builds (some (p new)), work, work, work, work, .handsOver, work, work, work, work])
          (start (p old) x)).map (fun m => (m.2.view.readText "/o",
            m.1.current.report?.map fun r => r.templates.map fun t => (t.1, t.2.isChange, t.2.isFailure))) =
        some (.ok "2", some [("s", false, false)]) := by
  intro x old new p work es
  have hcompiled : Template.compile (Path.shortName "/s") "1" .usual = .ok ⟨"s", [.text ['1']], [], []⟩ := by
    with_unfolding_all rfl
  have hload : Binding.load x.view .usual new.descriptor = .ok new :=
    Binding.load_eq_ok_iff.mpr
      ⟨"1", new.program, by decide +kernel, hcompiled, congrArg (Binding.mk _ _) (by decide +kernel)⟩
  exact ⟨by decide +kernel, hload, fun _ => rfl, by decide +kernel⟩

end Situation

end Stencil.Upkeep
