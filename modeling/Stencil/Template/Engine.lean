import Stencil.Template.Delimiter
import Stencil.Template.Rendering

set_option autoImplicit false
set_option relaxedAutoImplicit false

/-!
From the source of a template to its text, and the reasons why there is none.
-/

namespace Stencil.Template

open Stencil.Cluster

/-- Why a template has no text. A fault may have happened inside a definition. -/
inductive RenderFailure
  | unterminated (template : String) (offset : Nat)
  | compile (template : String)
  | render (template : String) (inside : Option (String × String)) (fault : Fault)

def withoutRepeats : List String → List String
  | [] => []
  | [s] => [s]
  | s :: t :: r => if s = t then withoutRepeats (t :: r) else s :: withoutRepeats (t :: r)

def placeText (template : String) : Option (String × String) → String
  | none => "Failed to render '" ++ template ++ "'"
  | some (library, name) =>
    "Failed to render '" ++ template ++ "': error while rendering macro "
      ++ accented (library ++ "::" ++ name)

def RenderFailure.message : RenderFailure → String
  | .unterminated t n =>
    "template '" ++ t ++ "': unterminated action starting at byte " ++ toString n
  | .compile t => "failed to compile template '" ++ t ++ "'"
  | .render t inside fault =>
    "failed to render template '" ++ t ++ "': "
      ++ ": ".intercalate (withoutRepeats (placeText t inside :: fault.chain))

/-- The fault of a function that lists objects, if one is behind the failure. -/
def RenderFailure.resource? : RenderFailure → Option ResourceFault
  | .render _ _ fault => fault.resource?
  | _ => none

def compile (name source : String) (d : Delimiters) : Except RenderFailure Program :=
  match Delimiter.translate d source.toList with
  | .error offset => .error (.unterminated name offset)
  | .ok translated =>
    match Program.read? name translated with
    | some p => .ok p
    | none => .error (.compile name)

def insideOf : Scope → Option (String × String)
  | ⟨.definition library name, _, _⟩ :: _ => some (library, name)
  | _ => none

/-- The text of a template in a world, and the world afterwards. -/
def render {σ : Type} (w : World σ) (p : Program) (state : σ) : Except RenderFailure String × σ :=
  match (Rendering.program w p).run.run ⟨[.page], state⟩ with
  | (.ok text, run) => (.ok text, run.world)
  | (.error fault, run) => (.error (.render p.name (insideOf run.scope) fault), run.world)

end Stencil.Template
