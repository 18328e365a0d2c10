import Stencil.Filesystem.AtomicWrite
import Stencil.Settings.Config
import Stencil.Template.Engine

set_option autoImplicit false
set_option relaxedAutoImplicit false

/-!
A template bound to the file that its text goes to. The file is written only when the text differs from the one
that was there last.
-/

namespace Stencil.Upkeep

open Stencil.Filesystem Stencil.Settings Stencil.Template

/-- A template that was read, with the text that its output held last. -/
structure Binding where
  descriptor : Descriptor
  program : Program
  lastOutput : String

inductive BindingFault
  | source (path : String) (error : IoError)
  | template (failure : RenderFailure)
  | output (failure : WriteFailure)

/-- The text was there, and only the output could not be written. -/
def BindingFault.isOutput : BindingFault → Bool
  | .output _ => true
  | _ => false

inductive Settlement
  | unchanged
  | changed (content : String)
deriving DecidableEq, Repr

def Settlement.isChange : Settlement → Bool
  | .unchanged => false
  | .changed _ => true

namespace Binding

/-- The text of an output that is there, or the empty text. -/
def existing (v : View) (path : String) : String :=
  match v.readText path with
  | .ok s => s
  | .error _ => ""

def load (v : View) (d : Delimiters) (descriptor : Descriptor) : Except BindingFault Binding :=
  match v.readText descriptor.source with
  | .error e => .error (.source descriptor.source e)
  | .ok source =>
    match compile (Path.shortName descriptor.source) source d with
    | .error e => .error (.template e)
    | .ok program => .ok ⟨descriptor, program, existing v descriptor.output⟩

def name (b : Binding) : String := b.program.name

def render {σ : Type} (w : World σ) (b : Binding) (s : σ) : Except BindingFault String × σ :=
  match Template.render w b.program s with
  | (.ok text, s) => (.ok text, s)
  | (.error e, s) => (.error (.template e), s)

/-- Brings a text to the output: a trial only remembers it. A failure leaves the binding as it was. -/
def settle (faults : AtomicWrite.Faults) (trial : Bool) (rendered : Except BindingFault String)
    (v : View) (b : Binding) : Except BindingFault Settlement × View × Binding :=
  match rendered with
  | .error e => (.error e, v, b)
  | .ok text =>
    if text = b.lastOutput then (.ok .unchanged, v, b)
    else if trial then (.ok (.changed text), v, { b with lastOutput := text })
    else
      let r := AtomicWrite.write faults v b.descriptor.output text
      match r.failure? with
      | some f => (.error (.output f), r.view, b)
      | none => (.ok (.changed text), r.view, { b with lastOutput := text })

end Binding

end Stencil.Upkeep
