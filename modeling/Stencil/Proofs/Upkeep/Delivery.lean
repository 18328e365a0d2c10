import Stencil.Proofs.Filesystem.Straight
import Stencil.Proofs.Upkeep.Agreement

set_option autoImplicit false
set_option relaxedAutoImplicit false

/-!
What calls leave at the output of a binding, whatever was there when it was loaded. Main statement: after a call that
succeeds the output is a file with the text of the call, unless the text was already remembered and was never there: a
trial brought it, or it is the empty text that stands for an output that was missing or could not be read.
-/

namespace Stencil.Filesystem.View

structure HoldsText (v : View) (path text : String) : Prop where
  isFile : v.isFile path = true
  readText : v.readText path = .ok text

/-- The same is seen at a path: whether it leads to a file, and what is read there. -/
structure LooksSame (path : String) (v w : View) : Prop where
  isFile : w.isFile path = v.isFile path
  readText : w.readText path = v.readText path

instance (v : View) (path text : String) : Decidable (v.HoldsText path text) :=
  decidable_of_iff (v.isFile path = true ∧ v.readText path = .ok text) ⟨fun h => ⟨h.1, h.2⟩, fun h => ⟨h.1, h.2⟩⟩

variable {u v w : View} {path text : String}

theorem HoldsText.of_reaches {p : Place} {mode : Nat}
    (h : v.Reaches true path (.entry p (.file mode (Text.Utf8.encode text)))) : v.HoldsText path text where
  isFile := isFile_eq_true_iff.mpr ⟨p, mode, _, h⟩
  readText := readText_eq_ok_iff.mpr ⟨p, _, _, h, rfl, Text.Utf8.decode?_encode text⟩

theorem HoldsText.extends (h : v.HoldsText path text) (hv : Extends v w) : w.HoldsText path text := by
  obtain ⟨p, mode, bytes, hp⟩ := isFile_eq_true_iff.mp h.isFile
  exact ⟨isFile_eq_true_iff.mpr ⟨p, mode, bytes, hp.mono hv⟩, readText_of_extends h.readText hv⟩

theorem LooksSame.refl (path : String) (v : View) : LooksSame path v v := ⟨rfl, rfl⟩

theorem LooksSame.trans (h : LooksSame path u v) (h' : LooksSame path v w) : LooksSame path u w :=
  ⟨h'.isFile.trans h.isFile, h'.readText.trans h.readText⟩

theorem LooksSame.holdsText (h : LooksSame path v w) (hv : v.HoldsText path text) : w.HoldsText path text :=
  ⟨h.isFile.trans hv.isFile, h.readText.trans hv.readText⟩

theorem eq_empty_of_not_isFile (h : v.readText path = .ok text) (hfile : v.isFile path ≠ true) : text = "" := by
  obtain ⟨p, e, bytes, hp, hc, hd⟩ := readText_eq_ok_iff.mp h
  cases e with
  | file mode content => exact absurd (isFile_eq_true_iff.mpr ⟨p, mode, content, hp⟩) hfile
  | directory | link => cases hc
  | sink =>
    cases hc
    exact (Option.some.inj ((Text.Utf8.decode?_encode "").symm.trans hd)).symm

end Stencil.Filesystem.View

namespace Stencil.Upkeep.Binding

open Stencil.Filesystem Stencil.Template

/-- A call that was made: whether it was a trial, and what it came to. -/
structure Call where
  trial : Bool
  result : Except BindingFault Settlement

namespace Call

def changes (c : Call) : Bool :=
  match c.result with
  | .ok o => o.isChange
  | .error _ => false

/-- The call had a text and could not write it. -/
def misses (c : Call) : Bool :=
  match c.result with
  | .ok _ => false
  | .error f => f.isOutput

end Call

def lastChange? (calls : List Call) : Option Call := calls.reverse.find? Call.changes

/-- What calls lead to. In a call a text, or the failure to render one, is brought to the output, in a trial or not,
while any steps fail. Between calls others may change files in any way that leaves what is seen at the output. -/
inductive Called (start : View × Binding) : List Call → View × Binding → Prop
  | start : Called start [] start
  | call {calls : List Call} {v : View} {b : Binding} (faults : AtomicWrite.Faults) (trial : Bool)
      (rendered : Except BindingFault String) : (trial = false → AtomicWrite.Straight v b.descriptor.output) →
      Called start calls (v, b) →
      Called start (calls ++ [⟨trial, (settle faults trial rendered v b).1⟩]) (settle faults trial rendered v b).2
  | others {calls : List Call} {v w : View} {b : Binding} : View.LooksSame b.descriptor.output v w →
      Called start calls (v, b) → Called start calls (w, b)

/-- The text that is remembered was read at the output or written there. -/
def WasThere (start : View) (output : String) (calls : List Call) : Prop :=
  match lastChange? calls with
  | none => ∃ s, start.HoldsText output s
  | some c => c.trial = false

/-- What is known of the remembered text after calls. -/
structure Known (start : View) (output : String) (calls : List Call) (v : View) (b : Binding) : Prop where
  path : b.descriptor.output = output
  there : WasThere start output calls → v.HoldsText output b.lastOutput
  unchanged : lastChange? calls = none → b.lastOutput = existing start output ∧
    ((∀ c ∈ calls, c.misses = false) → View.LooksSame output start v)

section Calls

variable {start v w : View} {d : Delimiters} {descriptor : Settings.Descriptor} {b₀ b : Binding} {output text : String}
  {calls : List Call} {c : Call}

theorem lastChange?_concat_of_change (calls : List Call) (h : c.changes = true) :
    lastChange? (calls ++ [c]) = some c := by
  rw [lastChange?, List.reverse_concat, List.find?_cons_of_pos h]

theorem lastChange?_concat_of_not_change (calls : List Call) (h : c.changes = false) :
    lastChange? (calls ++ [c]) = lastChange? calls := by
  rw [lastChange?, List.reverse_concat, List.find?_cons_of_neg (by simp [h]), lastChange?]

theorem existing_of_holdsText (h : v.HoldsText output text) : existing v output = text := by
  rw [existing, h.readText]

theorem existing_eq_empty (h : ¬∃ s, v.HoldsText output s) : existing v output = "" := by
  rw [existing]
  split
  · next s hs =>
    by_contra hne
    have hfile : v.isFile output = true := by
      by_contra hfile
      exact hne (View.eq_empty_of_not_isFile hs hfile)
    exact h ⟨s, hfile, hs⟩
  · rfl

theorem known_start (hload : load start d descriptor = .ok b₀) : Known start descriptor.output [] start b₀ := by
  obtain ⟨_, program, -, -, rfl⟩ := load_eq_ok_iff.mp hload
  refine ⟨rfl, ?_, fun _ => ⟨rfl, fun _ => .refl _ _⟩⟩
  rintro ⟨s, hs⟩
  change start.HoldsText descriptor.output (existing start descriptor.output)
  rw [existing_of_holdsText hs]
  exact hs

theorem Known.others (h : Known start output calls v b) (hw : View.LooksSame output v w) :
    Known start output calls w b := by
  refine ⟨h.path, fun hthere => hw.holdsText (h.there hthere), fun hnone => ?_⟩
  obtain ⟨hlast, hsame⟩ := h.unchanged hnone
  exact ⟨hlast, fun hmisses => (hsame hmisses).trans hw⟩

theorem Known.concat (h : Known start output calls v b) (hc : c.changes = false)
    (hthere : v.HoldsText output b.lastOutput → w.HoldsText output b.lastOutput)
    (hsame : c.misses = false → View.LooksSame output v w) : Known start output (calls ++ [c]) w b := by
  have hlast := lastChange?_concat_of_not_change calls hc
  refine ⟨h.path, fun hwas => hthere (h.there ?_), fun hnone => ?_⟩
  · rwa [WasThere, hlast] at hwas
  · obtain ⟨hexisting, hlooks⟩ := h.unchanged (hlast.symm.trans hnone)
    refine ⟨hexisting, fun hmisses => (hlooks fun x hx => hmisses x ?_).trans (hsame (hmisses c ?_))⟩
    · exact List.mem_append_left _ hx
    · exact List.mem_append_right _ List.mem_cons_self

theorem Known.renew (h : Known start output calls v b) (hc : c.changes = true)
    (hthere : c.trial = false → w.HoldsText output text) :
    Known start output (calls ++ [c]) w { b with lastOutput := text } := by
  have hlast := lastChange?_concat_of_change calls hc
  refine ⟨h.path, fun hwas => ?_, fun hnone => ?_⟩
  · rw [WasThere, hlast] at hwas
    exact hthere hwas
  · cases hlast.symm.trans hnone

theorem Known.call (h : Known start output calls v b) (faults : AtomicWrite.Faults) {trial : Bool}
    (rendered : Except BindingFault String) (hstraight : trial = false → AtomicWrite.Straight v output) :
    Known start output (calls ++ [⟨trial, (settle faults trial rendered v b).1⟩]) (settle faults trial rendered v b).2.1
      (settle faults trial rendered v b).2.2 := by
  have hsettles := settles faults trial rendered v b
  generalize settle faults trial rendered v b = r at hsettles ⊢
  cases hsettles with
  | unrendered f => exact h.concat rfl id fun _ => .refl _ _
  | unchanged => exact h.concat rfl id fun _ => .refl _ _
  | tried _ htrial =>
    refine h.renew rfl fun hreal => ?_
    cases htrial.symm.trans hreal
  | failed _ _ hf =>
    refine h.concat rfl (fun hholds => ?_) nofun
    -- what is at an output that is there is not touched by a write that fails
    rw [h.path] at hf ⊢
    have hsame := (AtomicWrite.write_readable hholds.readText faults _).2 (hf ▸ Option.some_ne_none _)
    exact hholds.extends hsame.extends
  | written _ hreal hf =>
    refine h.renew rfl fun _ => ?_
    rw [h.path] at hf ⊢
    obtain ⟨-, p, mode, hp⟩ := (hstraight hreal).reaches_of_done faults _ hf
    exact .of_reaches hp

theorem Called.known {x : View × Binding} (h : Called (start, b₀) calls x) (hload : load start d descriptor = .ok b₀) :
    Known start descriptor.output calls x.1 x.2 := by
  induction h with
  | start => exact known_start hload
  | call faults trial rendered hstraight _ ih =>
    rw [ih.path] at hstraight
    exact ih.call faults rendered hstraight
  | others hw _ ih =>
    rw [ih.path] at hw
    exact ih.others hw

end Calls

/-- After a call that succeeds, outside of a trial, the output is a file with the text of the call. The call may also
have found the text remembered that a trial brought, or, where no call came to a change, the empty text that stands for
an output that was no file or could not be read. Then it writes nothing, and an output that no write missed is still as
it was when the binding was loaded. -/
theorem output_holds_text_or_was_never_written {start v w : View} {d : Delimiters} {descriptor : Settings.Descriptor}
    {b₀ b c : Binding} {calls : List Call} {o : Settlement} (hload : load start d descriptor = .ok b₀)
    (hcalled : Called (start, b₀) calls (v, b)) (hstraight : AtomicWrite.Straight v descriptor.output)
    (faults : AtomicWrite.Faults) (rendered : Except BindingFault String)
    (hcall : settle faults false rendered v b = (.ok o, w, c)) :
    rendered = .ok c.lastOutput ∧
      (w.HoldsText descriptor.output c.lastOutput ∨
        o = .unchanged ∧ w = v ∧
          ((∃ call, lastChange? calls = some call ∧ call.trial = true) ∨
            lastChange? calls = none ∧ c.lastOutput = "" ∧ (¬∃ s, start.HoldsText descriptor.output s) ∧
              ((∀ call ∈ calls, call.misses = false) → View.LooksSame descriptor.output start w))) := by
  have hknown := hcalled.known hload
  have hsettles := settles faults false rendered v b
  rw [hcall] at hsettles
  cases hsettles with
  | tried _ htrial => cases htrial
  | written _ _ hf =>
    rw [hknown.path] at hf ⊢
    obtain ⟨-, p, mode, hp⟩ := hstraight.reaches_of_done faults _ hf
    exact ⟨rfl, .inl (.of_reaches hp)⟩
  | unchanged =>
    refine ⟨rfl, ?_⟩
    by_cases hthere : WasThere start descriptor.output calls
    · exact .inl (hknown.there hthere)
    refine .inr ⟨rfl, rfl, ?_⟩
    rw [WasThere] at hthere
    cases hlast : lastChange? calls with
    | some call =>
      rw [hlast] at hthere
      exact .inl ⟨call, rfl, Bool.not_eq_false _ ▸ hthere⟩
    | none =>
      rw [hlast] at hthere
      obtain ⟨hexisting, hsame⟩ := hknown.unchanged hlast
      exact .inr ⟨rfl, hexisting.trans (existing_eq_empty hthere), hthere, hsame⟩

/-- An output that could not be read stays as it is while there is no text for it, and is then written. -/
theorem unreadable_output_is_written :
    let v : View := ⟨⟨[(["t"], .file 0o644 [110]), (["o"], .file 0o600 [255])]⟩, []⟩
    let b : Binding := ⟨⟨"/t", "/o", none, none⟩, ⟨"t", [.text ['n']], [], []⟩, ""⟩
    let second := settle AtomicWrite.noFaults false (.ok "n") v b
    load v .usual b.descriptor = .ok b ∧ settle AtomicWrite.noFaults false (.ok "") v b = (.ok .unchanged, v, b) ∧
      second.1.isOk = true ∧ second.2.1.HoldsText "/o" "n" := by
  intro v b second
  have hcompile : compile (Path.shortName "/t") "n" .usual = .ok b.program := by with_unfolding_all rfl
  have hload : load v .usual b.descriptor = .ok b := load_text (by decide +kernel) hcompile (by decide +kernel)
  have hentry : v.entry "/o" = .ok (["o"], .file 0o600 [255]) := by decide +kernel
  have hstraight : AtomicWrite.Straight v "/o" :=
    AtomicWrite.straight_of_reaches (View.entry_eq_ok_iff.mp hentry) (Entry.isPlain_file _ _)
  have hfirst : settle AtomicWrite.noFaults false (.ok "") v b = (.ok .unchanged, v, b) :=
    settle_lastOutput AtomicWrite.noFaults false v b
  have hstart : Called (v, b) [] (v, b) := .start
  have hcalled : Called (v, b) [⟨false, .ok .unchanged⟩] (v, b) := by
    have hcall := hstart.call AtomicWrite.noFaults false (.ok "") fun _ => hstraight
    rwa [hfirst] at hcall
  have hsecond : second.1.isOk = true := by decide +kernel
  refine ⟨hload, hfirst, hsecond, ?_⟩
  cases hresult : second.1 with
  | error f =>
    rw [hresult] at hsecond
    cases hsecond
  | ok o =>
    obtain ⟨htext, hholds⟩ := output_holds_text_or_was_never_written hload hcalled hstraight AtomicWrite.noFaults
      (.ok "n") (Prod.ext hresult rfl)
    have hlast : second.2.2.lastOutput = "n" := (Except.ok.inj htext).symm
    rw [hlast] at hholds
    rcases hholds with hholds | ⟨-, -, ⟨call, hcall, -⟩ | ⟨-, hempty, -⟩⟩
    · exact hholds
    · cases hcall
    · exact absurd hempty (by decide)

/-- A call that succeeds leaves no file where there was none and there is no text for it, leaves a file that could not
be read as it is, and takes a text for written that only a trial brought. A link that the path also follows on its way
is replaced, and then the path leads nowhere; and a device that comes in reach with a new directory takes the text. -/
theorem succeeded_call_need_not_leave_its_text :
    let silent (output : String) : Binding := ⟨⟨"/t", output, none, none⟩, ⟨"t", [], [], []⟩, ""⟩
    let plain (output : String) : Binding := ⟨⟨"/t", output, none, none⟩, ⟨"t", [.text ['1']], [], []⟩, ""⟩
    let files (source : List UInt8) (others : List (Filesystem.Place × Entry)) : View :=
      ⟨⟨(["t"], .file 0o644 source) :: others⟩, []⟩
    let tried := (settle AtomicWrite.noFaults true (.ok "1") (files [49] []) (plain "/o")).2
    let loses (text : String) (v : View) (b : Binding) : Prop :=
      let last := settle AtomicWrite.noFaults false (.ok text) v b
      last.1.isOk = true ∧ ¬last.2.1.HoldsText b.descriptor.output text
    let fails (text : String) (v : View) (b : Binding) : Prop := load v .usual b.descriptor = .ok b ∧ loses text v b
    (∀ (σ : Type) (w : World σ) (s : σ) (output : String),
        ((silent output).render w s).1 = .ok "" ∧ ((plain output).render w s).1 = .ok "1") ∧
      fails "" (files [] []) (silent "/o") ∧
      fails "" (files [] [(["o"], .file 0o644 [255])]) (silent "/o") ∧
      (load (files [49] []) .usual (plain "/o").descriptor = .ok (plain "/o") ∧ loses "1" tried.1 tried.2) ∧
      fails "1" (files [49] [(["d"], .directory), (["l"], .link "d")]) (plain "/l/../l") ∧
      fails "1" (files [49] [(["s"], .sink)]) (plain "/x/../s") := by
  intro silent plain files tried loses fails
  have hsilent : compile (Path.shortName "/t") "" .usual = .ok (silent "").program := by with_unfolding_all rfl
  have hplain : compile (Path.shortName "/t") "1" .usual = .ok (plain "").program := by with_unfolding_all rfl
  refine ⟨fun _ _ _ _ => ⟨rfl, rfl⟩, ⟨?_, by decide +kernel⟩, ⟨?_, by decide +kernel⟩, ⟨?_, by decide +kernel⟩,
    ⟨?_, by decide +kernel⟩, ?_, by decide +kernel⟩
  · exact load_text (by decide +kernel) hsilent (by decide +kernel)
  · exact load_text (by decide +kernel) hsilent (by decide +kernel)
  · exact load_text (by decide +kernel) hplain (by decide +kernel)
  · exact load_text (by decide +kernel) hplain (by decide +kernel)
  · exact load_text (by decide +kernel) hplain (by decide +kernel)

end Stencil.Upkeep.Binding
