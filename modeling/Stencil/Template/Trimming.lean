import Stencil.Template.Node
import Stencil.Text.Blank

set_option autoImplicit false
set_option relaxedAutoImplicit false

/-!
The removal of blanks next to tags that ask for it.
-/

namespace Stencil.Template

open Stencil.Text

/-- The text without the blanks at the ends that are named. -/
def trimmed (atStart atEnd : Bool) (s : List Char) : List Char :=
  let s := if atStart then Blank.trimStart s else s
  if atEnd then Blank.trimEnd s else s

/-- What follows in a body asks for the blanks in front of it to go; `atEnd` says so for its last tag. -/
def nextTrims (atEnd : Bool) : List Node → Bool
  | [] => atEnd
  | n :: _ => n.startsTrimmed

mutual

/-- The part with the blanks inside it removed. -/
def Node.trim : Node → Node
  | .raw start s close => .raw start (trimmed start.right close.left s) close
  | .loop start names container body empty close =>
    .loop start names container (trimBody start.right close.left body)
      (trimBody start.right close.left empty) close
  | .branch arms => .branch arms.trim
  | .filtered start filter body close =>
    .filtered start filter (trimBody start.right close.left body) close
  | .block start name body close => .block start name (trimBody start.right close.left body) close
  | .define start name parameters body close =>
    .define start name parameters (trimBody start.right close.left body) close
  | n => n

def Arms.trim : Arms → Arms
  | .close e => .close e
  | .otherwise start body close => .otherwise start (trimBody start.right close.left body) close
  | .arm start condition body rest =>
    .arm start condition (trimBody start.right rest.startsTrimmed body) rest.trim

/-- A body with the blanks removed, where `atStart` and `atEnd` say whether the tags around it ask for
that. A text of which nothing remains is left out. -/
def trimBody (atStart atEnd : Bool) : List Node → List Node
  | [] => []
  | .text s :: r =>
    match trimmed atStart (nextTrims atEnd r) s with
    | [] => trimBody false atEnd r
    | c :: s => .text (c :: s) :: trimBody false atEnd r
  | n :: r => n.trim :: trimBody (n.endsTrimmed atStart) atEnd r

end

end Stencil.Template
