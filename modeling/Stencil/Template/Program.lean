import Stencil.Template.NodeParser
import Stencil.Template.Trimming

set_option autoImplicit false
set_option relaxedAutoImplicit false

/-!
Templates that were read: their parts, and the parts that other places refer to by name.
-/

namespace Stencil.Template

/-- A part that is written once and used in several places. -/
structure Definition where
  parameters : List Parameter
  body : List Node

structure Program where
  name : String
  body : List Node
  definitions : List (String × Definition)
  blocks : List (String × List Node)

def definitionsOf (nodes : List Node) : List (String × Definition) :=
  nodes.filterMap fun
    | .define _ name parameters body _ => some (name, ⟨parameters, body⟩)
    | _ => none

mutual

/-- The blocks of a part, those inside a block included. -/
def Node.blocks : Node → List (String × List Node)
  | .block _ name body _ => (name, body) :: blocksOf body
  | _ => []

def blocksOf : List Node → List (String × List Node)
  | [] => []
  | n :: r => n.blocks ++ blocksOf r

end

def namesDiffer {α : Type} (entries : List (String × α)) : Bool := (entries.map (·.1)).Nodup

/-- The template that a source writes, if it has the form of one and no name is given twice. -/
def Program.read? (name : String) (source : List Char) : Option Program := do
  let nodes ← NodeParser.parts? source
  let body := trimBody false false nodes
  let definitions := definitionsOf body
  let blocks := blocksOf body
  if namesDiffer definitions && namesDiffer blocks then some ⟨name, body, definitions, blocks⟩ else none

end Stencil.Template
