import Stencil.Text.Blank
import Stencil.Text.Find
import Stencil.Time.Duration

set_option autoImplicit false
set_option relaxedAutoImplicit false

/-!
What is to be done with one template: where it is read, where its text goes, and what is run after the text
has changed.
-/

namespace Stencil.Settings

open Stencil.Text Stencil.Time

/-- A template with its output, the command that follows a change, and the time that the command has. -/
structure Descriptor where
  source : String
  output : String
  command : Option String
  timeout : Option Duration
deriving DecidableEq, Repr

inductive DescriptorFault
  | blank
  | noOutput
  | emptySource
  | emptyOutput
deriving DecidableEq, Repr

def DescriptorFault.reason : DescriptorFault → String
  | .blank => "empty template descriptor string"
  | .noOutput => "should be 'templatePath:outputPath[:command]'"
  | .emptySource => "template path is empty"
  | .emptyOutput => "output path is empty"

def commandOf (s : List Char) : Option String :=
  if s.all Blank.isBlank then none else some (String.ofList s)

namespace Descriptor

/-- Reads `source:output`, and perhaps a further colon and a command. The command may hold colons itself. -/
def parse (s : List Char) : Except DescriptorFault Descriptor :=
  if s.all Blank.isBlank then .error .blank
  else
    match Find.cut? [':'] s with
    | none => .error .noOutput
    | some (source, rest) =>
      let (output, command) := match Find.cut? [':'] rest with
        | none => (rest, none)
        | some (output, command) => (output, commandOf command)
      if source.isEmpty then .error .emptySource
      else if output.isEmpty then .error .emptyOutput
      else .ok ⟨String.ofList source, String.ofList output, command, none⟩

/-- The descriptor in the form in which it is read. The time of the command is not told. -/
def text (d : Descriptor) : String :=
  d.source ++ ":" ++ d.output ++ match d.command with
    | none => ""
    | some c => ":" ++ c

end Descriptor

end Stencil.Settings
