import Stencil.Template.Expr

set_option autoImplicit false
set_option relaxedAutoImplicit false

/-!
The parts of a template between which text runs, and the texts themselves.
-/

namespace Stencil.Template

/-- Whether a tag removes the blanks in front of it and behind it. -/
structure Edges where
  left : Bool
  right : Bool
deriving DecidableEq, Repr

/-- A parameter of a definition: its name and the literal that stands for it when it is not given. -/
structure Parameter where
  name : String
  default? : Option Operand

mutual

/-- A part of a template. A part with a body has the edges of its first and of its last tag. -/
inductive Node
  | text (s : List Char)
  | raw (start : Edges) (s : List Char) (close : Edges)
  | comment (edges : Edges)
  | output (edges : Edges) (value : Expr)
  | assign (edges : Edges) (everywhere : Bool) (name : String) (value : Expr)
  | include (edges : Edges) (names : List String) (optional : Bool)
  | leave (edges : Edges)
  | continue (edges : Edges)
  | overridden
  | loop (start : Edges) (names : List String) (container : Expr) (body : List Node)
      (empty : List Node) (close : Edges)
  | branch (arms : Arms)
  | filtered (start : Edges) (filter : Call) (body : List Node) (close : Edges)
  | block (start : Edges) (name : String) (body : List Node) (close : Edges)
  | define (start : Edges) (name : String) (parameters : List Parameter) (body : List Node)
      (close : Edges)

/-- The arms of a branch in order, up to the tag that closes it. -/
inductive Arms
  | close (edges : Edges)
  | otherwise (start : Edges) (body : List Node) (close : Edges)
  | arm (start : Edges) (condition : Expr) (body : List Node) (rest : Arms)

end

instance : Inhabited Node := ⟨.overridden⟩
instance : Inhabited Arms := ⟨.close ⟨false, false⟩⟩

def Arms.startsTrimmed : Arms → Bool
  | .close e | .otherwise e _ _ | .arm e _ _ _ => e.left

/-- The last tag of the arms removes the blanks behind it. -/
def Arms.endsTrimmed : Arms → Bool
  | .close e | .otherwise _ _ e => e.right
  | .arm _ _ _ rest => rest.endsTrimmed

def Node.startsTrimmed : Node → Bool
  | .text _ | .overridden => false
  | .comment e | .output e _ | .assign e _ _ _ | .include e _ _ | .leave e | .continue e => e.left
  | .raw e _ _ | .loop e _ _ _ _ _ | .filtered e _ _ _ | .block e _ _ _ | .define e _ _ _ _ => e.left
  | .branch arms => arms.startsTrimmed

/-- The part removes the blanks behind it, where `pending` says whether those in front of it go. -/
def Node.endsTrimmed (pending : Bool) : Node → Bool
  | .text _ => false
  | .overridden => pending
  | .comment e | .output e _ | .assign e _ _ _ | .include e _ _ | .leave e | .continue e => e.right
  | .raw _ _ e | .loop _ _ _ _ _ e | .filtered _ _ _ e | .block _ _ _ e | .define _ _ _ _ e => e.right
  | .branch arms => arms.endsTrimmed

end Stencil.Template
