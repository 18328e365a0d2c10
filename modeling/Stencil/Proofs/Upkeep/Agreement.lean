import Stencil.Proofs.Filesystem.Replacement
import Stencil.Upkeep.Binding

set_option autoImplicit false
set_option relaxedAutoImplicit false

/-!
The text that a binding remembers and the text in its output. They agree when a binding is loaded from an
output that can be read, and bringing a text to the output keeps them so, whichever steps fail. Main statement:
they agree after every call in every course of calls, a call that succeeds leaves both at the text that was
rendered, and one that fails leaves both as they were.
-/

namespace Stencil.Upkeep

open Stencil.Filesystem Stencil.Template

namespace Binding

def Agrees (v : View) (b : Binding) : Prop := v.readText b.descriptor.output = .ok b.lastOutput

/-- What calls lead to. In a call a text, or the failure to render one, is brought to the output, while any steps
fail. Between calls others may change files in any way that leaves what is read at the output. -/
inductive Reached (start : View × Binding) : View × Binding → Prop
  | refl : Reached start start
  | call {v : View} {b : Binding} (faults : AtomicWrite.Faults) (rendered : Except BindingFault String) :
      Reached start (v, b) → Reached start (settle faults false rendered v b).2
  | others {v w : View} {b : Binding} :
      w.readText b.descriptor.output = v.readText b.descriptor.output →
      Reached start (v, b) → Reached start (w, b)

theorem load_eq_ok_iff {v : View} {d : Delimiters} {descriptor : Settings.Descriptor} {b : Binding} :
    load v d descriptor = .ok b ↔ ∃ source program, v.readText descriptor.source = .ok source ∧
      compile (Path.shortName descriptor.source) source d = .ok program ∧
      b = ⟨descriptor, program, existing v descriptor.output⟩ := by
  rw [load]
  constructor
  · intro h
    split at h
    · cases h
    · next source hsource =>
      split at h
      · cases h
      · next program hprogram =>
        cases h
        exact ⟨source, program, hsource, hprogram, rfl⟩
  · rintro ⟨source, program, hsource, hprogram, rfl⟩
    rw [hsource]
    dsimp only
    rw [hprogram]

theorem load_text {v : View} {d : Delimiters} {descriptor : Settings.Descriptor} {source last : String}
    {program : Program} (hread : v.readText descriptor.source = .ok source)
    (hcompile : compile (Path.shortName descriptor.source) source d = .ok program)
    (hlast : existing v descriptor.output = last) : load v d descriptor = .ok ⟨descriptor, program, last⟩ :=
  load_eq_ok_iff.mpr ⟨source, program, hread, hcompile, congrArg (mk _ _) hlast.symm⟩

theorem load_agrees {v : View} {d : Delimiters} {descriptor : Settings.Descriptor} {b : Binding} {s : String}
    (h : load v d descriptor = .ok b) (hs : v.readText descriptor.output = .ok s) :
    b.descriptor = descriptor ∧ Agrees v b := by
  obtain ⟨_, program, -, -, rfl⟩ := load_eq_ok_iff.mp h
  refine ⟨rfl, ?_⟩
  change v.readText descriptor.output = .ok (existing v descriptor.output)
  rw [existing, hs]

/-- The ways in which the text of a template, or the failure to render one, is brought to the output. -/
inductive Settles (faults : AtomicWrite.Faults) (trial : Bool) (v : View) (b : Binding) :
    Except BindingFault String → Except BindingFault Settlement × View × Binding → Prop
  | unrendered (f : BindingFault) : Settles faults trial v b (.error f) (.error f, v, b)
  | unchanged : Settles faults trial v b (.ok b.lastOutput) (.ok .unchanged, v, b)
  | tried {text : String} : text ≠ b.lastOutput → trial = true →
      Settles faults trial v b (.ok text) (.ok (.changed text), v, { b with lastOutput := text })
  | failed {text : String} {f : WriteFailure} : text ≠ b.lastOutput → trial = false →
      (AtomicWrite.write faults v b.descriptor.output text).failure? = some f →
      Settles faults trial v b (.ok text)
        (.error (.output f), (AtomicWrite.write faults v b.descriptor.output text).view, b)
  | written {text : String} : text ≠ b.lastOutput → trial = false →
      (AtomicWrite.write faults v b.descriptor.output text).failure? = none →
      Settles faults trial v b (.ok text)
        (.ok (.changed text), (AtomicWrite.write faults v b.descriptor.output text).view,
          { b with lastOutput := text })

theorem settles (faults : AtomicWrite.Faults) (trial : Bool) (rendered : Except BindingFault String) (v : View)
    (b : Binding) : Settles faults trial v b rendered (settle faults trial rendered v b) := by
  cases rendered with
  | error f => exact .unrendered f
  | ok text =>
    rw [settle]
    split
    · next ht =>
      subst ht
      exact .unchanged
    · next ht =>
      split
      · next htrial => exact .tried ht htrial
      · next htrial =>
        dsimp only
        split
        · next f hf => exact .failed ht (Bool.not_eq_true _ ▸ htrial) hf
        · next hf => exact .written ht (Bool.not_eq_true _ ▸ htrial) hf

theorem settle_lastOutput (faults : AtomicWrite.Faults) (trial : Bool) (v : View) (b : Binding) :
    settle faults trial (.ok b.lastOutput) v b = (.ok .unchanged, v, b) := if_pos rfl

/-- What a call comes to when output and binding agree before it. -/
structure Settled (rendered : Except BindingFault String) (v : View) (b : Binding)
    (result : Except BindingFault Settlement) (w : View) (c : Binding) : Prop where
  descriptor : c.descriptor = b.descriptor
  agrees : Agrees w c
  ok : ∀ o, result = .ok o → rendered = .ok c.lastOutput ∧
    o = if c.lastOutput = b.lastOutput then .unchanged else .changed c.lastOutput
  error : ∀ f, result = .error f → c = b ∧ View.Same v w

theorem settle_settled {v : View} {b : Binding} (h : Agrees v b) (faults : AtomicWrite.Faults)
    (rendered : Except BindingFault String) :
    Settled rendered v b (settle faults false rendered v b).1 (settle faults false rendered v b).2.1
      (settle faults false rendered v b).2.2 := by
  have hsettles := settles faults false rendered v b
  generalize settle faults false rendered v b = r at hsettles ⊢
  cases hsettles with
  | unrendered f => exact ⟨rfl, h, nofun, fun _ _ => ⟨rfl, .refl v⟩⟩
  | unchanged =>
    refine ⟨rfl, h, fun o ho => ?_, nofun⟩
    cases ho
    exact ⟨rfl, (if_pos rfl).symm⟩
  | tried _ htrial => cases htrial
  | failed ht _ hf =>
    have hsame := (AtomicWrite.write_readable h faults _).2 (hf ▸ Option.some_ne_none _)
    exact ⟨rfl, View.readText_of_extends h hsame.extends, nofun, fun _ _ => ⟨rfl, hsame⟩⟩
  | written ht _ hf =>
    refine ⟨rfl, (AtomicWrite.write_readable h faults _).1 hf, fun o ho => ?_, nofun⟩
    cases ho
    exact ⟨rfl, (if_neg ht).symm⟩

theorem Reached.agrees {start x : View × Binding} (h : Reached start x) (hs : Agrees start.1 start.2) :
    x.2.descriptor = start.2.descriptor ∧ Agrees x.1 x.2 := by
  induction h with
  | refl => exact ⟨rfl, hs⟩
  | call faults rendered _ ih =>
    have hc := settle_settled ih.2 faults rendered
    exact ⟨hc.descriptor.trans ih.1, hc.agrees⟩
  | others hw _ ih => exact ⟨ih.1, hw.trans ih.2⟩

/-- After every call the output holds what the binding remembers. A call that succeeds leaves both at the text
that was rendered, and is a change exactly if the text differs from the one before; a call that fails leaves
both as they were. -/
theorem output_agrees_after_every_call {v w : View} {d : Delimiters} {descriptor : Settings.Descriptor}
    {b c : Binding} {s : String} (hload : load v d descriptor = .ok b)
    (hread : v.readText descriptor.output = .ok s) (hreached : Reached (v, b) (w, c))
    (faults : AtomicWrite.Faults) (rendered : Except BindingFault String) :
    let (result, w', c') := settle faults false rendered w c
    w.readText descriptor.output = .ok c.lastOutput ∧
      w'.readText descriptor.output = .ok c'.lastOutput ∧
      (∀ o, result = .ok o → rendered = .ok c'.lastOutput ∧
        o = if c'.lastOutput = c.lastOutput then .unchanged else .changed c'.lastOutput) ∧
      (∀ f, result = .error f → c'.lastOutput = c.lastOutput ∧
        w'.readText descriptor.output = w.readText descriptor.output) := by
  obtain ⟨hd, hagrees⟩ := load_agrees hload hread
  obtain ⟨hc, hbefore⟩ := hreached.agrees hagrees
  have hdesc : c.descriptor = descriptor := hc.trans hd
  have hcall := settle_settled hbefore faults rendered
  have hafter := hcall.agrees
  rw [Agrees, hdesc] at hbefore
  rw [Agrees, hcall.descriptor, hdesc] at hafter
  refine ⟨hbefore, hafter, hcall.ok, fun f hf => ?_⟩
  obtain ⟨he, -⟩ := hcall.error f hf
  exact ⟨congrArg lastOutput he, hafter.trans ((congrArg (Except.ok ∘ lastOutput) he).trans hbefore.symm)⟩

/-- Where there is no room for a temporary file, a call leaves the old text, and the next one may replace it. -/
theorem output_agrees_without_room :
    let v : View := ⟨⟨[(["t"], .file 0o644 [110]), (["o"], .file 0o644 [111])]⟩, []⟩
    let b : Binding := ⟨⟨"/t", "/o", none, none⟩, ⟨"t", [.text ['n']], [], []⟩, "o"⟩
    let noRoom : AtomicWrite.Faults := fun _ s =>
      if s = .makeTemporary then some ⟨.resourceBusy, 0⟩ else none
    let (first, w, c) := settle noRoom false (.ok "new") v b
    let (_, w', c') := settle AtomicWrite.noFaults false (.ok "newer") w c
    first.isOk = false ∧ w.readText "/o" = .ok "o" ∧ w'.readText "/o" = .ok c'.lastOutput := by
  intro v b noRoom
  have hload : load v .usual ⟨"/t", "/o", none, none⟩ = .ok b :=
    load_eq_ok_iff.mpr ⟨"n", b.program, by decide +kernel, by with_unfolding_all rfl,
      congrArg (mk _ _) (by decide +kernel)⟩
  have hread : v.readText "/o" = .ok "o" := by decide +kernel
  have hthere : v.exists? "/o" = true := by decide +kernel
  have hfails : (settle noRoom false (.ok "new") v b).1.isOk = false := by
    rw [settle, if_neg (by decide), if_neg Bool.false_ne_true, AtomicWrite.write, if_pos hthere]
    rfl
  have hfirst := output_agrees_after_every_call hload hread .refl noRoom (.ok "new")
  have hsecond := output_agrees_after_every_call hload hread (.call noRoom (.ok "new") .refl)
    AtomicWrite.noFaults (.ok "newer")
  refine ⟨hfails, ?_, hsecond.2.1⟩
  cases hresult : (settle noRoom false (.ok "new") v b).1 with
  | ok o =>
    rw [hresult] at hfails
    cases hfails
  | error f => exact (hfirst.2.2.2 f hresult).2.trans hread

end Binding

end Stencil.Upkeep
