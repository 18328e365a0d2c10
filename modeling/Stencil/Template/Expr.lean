set_option autoImplicit false
set_option relaxedAutoImplicit false

/-!
Expressions of the template language.
-/

namespace Stencil.Template

inductive Arithmetic
  | add
  | sub
  | mul
  | div
  | mod
deriving DecidableEq, Repr

inductive Logic
  | and
  | or
  | eq
  | ne
  | lt
  | le
  | gt
  | ge
deriving DecidableEq, Repr

/-- A variable, and a way into its value by keys and by the values of other places. -/
inductive Place
  | variable (name : String)
  | key (inside : Place) (key : String)
  | at (inside index : Place)
deriving DecidableEq, Repr

mutual

/-- What an expression starts from, before filters and negation. -/
inductive Operand
  | text (s : String)
  | int (n : Int)
  | float (x : Float)
  | bool (b : Bool)
  | place (p : Place)
  | arithmetic (op : Arithmetic) (lhs rhs : Expr)
  | logic (op : Logic) (lhs rhs : Expr)
  | test (place : Place) (name : String) (args : List Expr) (negated : Bool)
  | member (item container : Expr) (negated : Bool)
  | array (items : List Expr)
  | joined (parts : List Operand)
  | call (function : Call)
  | expand (library name : String) (args : List Arg)

/-- An operand, the filters that it runs through in order, and a negation of the result. -/
inductive Expr
  | mk (operand : Operand) (filters : List Call) (negated : Bool)

inductive Call
  | mk (name : String) (args : List Arg)

inductive Arg
  | mk (name : String) (value : Expr)

end

instance : Inhabited Operand := ⟨.bool false⟩
instance : Inhabited Expr := ⟨.mk default [] false⟩

def Expr.operand : Expr → Operand
  | .mk o _ _ => o

def Expr.withNegation (negated : Bool) : Expr → Expr
  | .mk o fs _ => .mk o fs negated

def Operand.toExpr (o : Operand) : Expr := .mk o [] false

def Call.name : Call → String
  | .mk n _ => n

def Arg.name : Arg → String
  | .mk n _ => n

/-- The arguments without those that a later one of the same name replaces. -/
def lastOfEachName (args : List Arg) : List Arg :=
  args.foldr (fun a acc => if acc.any (·.name == a.name) then acc else a :: acc) []

end Stencil.Template
