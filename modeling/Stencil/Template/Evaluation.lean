import Stencil.Template.Filter.Table
import Stencil.Template.Function
import Stencil.Template.Program
import Stencil.Template.Scope
import Stencil.Template.Test

set_option autoImplicit false
set_option relaxedAutoImplicit false

/-!
The values of expressions. An expression is asked for its value, for its truth or for its number, and the
three do not always agree: truth and number may be settled before the filters are looked at.
-/

namespace Stencil.Template

open Stencil.Json Stencil.Decimal

/-- What changes while a template is rendered: the variables, and the state of the world. -/
structure Run (σ : Type) where
  scope : Scope
  world : σ

/-- A computation that may fail. What it did up to then remains done. -/
abbrev Eval (σ : Type) := ExceptT Fault (StateM (Run σ))

/-- What a part of a template does to the loop around it. -/
inductive Flow
  | next
  | leave
  | continue
deriving DecidableEq, Repr

/-- What is written, and what happens to the loop around. -/
structure Output where
  text : String
  flow : Flow

/-- What an evaluation depends on: the world, the program, and how to render a body that is not a part of the
one at hand. -/
structure Setting (σ : Type) where
  world : World σ
  program : Program
  elsewhere : List Node → Eval σ Output

namespace Evaluation

variable {σ : Type}

def within {α : Type} (callee : Callee) (name : String) (x : Eval σ α) : Eval σ α :=
  tryCatch x fun e => throw (.within callee name e)

def ofExcept {α : Type} : Except Fault α → Eval σ α
  | .ok a => pure a
  | .error e => throw e

def lookup (p : Place) : Eval σ (Option Value) := do
  pure ((← get).scope.lookup p)

def unbound : Place → Fault
  | .variable n => .unbound n
  | .key p _ => unbound p
  | .at p _ => unbound p

def isSilent (name : String) : Bool := name == "safe" || name == "default"

/-- A value is stood for by another one when there is none. -/
def startsWithDefault : List Call → Bool
  | c :: _ => c.name == "default"
  | [] => false

def negate (negated : Bool) (v : Value) : Value := if negated then .bool (!Data.truth v) else v

/-- The value of an expression, given that of its operand, the one that stands for a missing one, and what its
filters do. The negation of a condition counts twice: before the filters and behind them. -/
def settle (o : Operand) (filters : List Call) (negated : Bool) (base : Eval σ Value)
    (fallback : Eval σ Value) (filtered : Value → Eval σ Value) : Eval σ Value := do
  match o with
  | .place p =>
    match ← lookup p with
    | some v =>
      let v ← if v == .null && startsWithDefault filters then fallback else pure v
      negate negated <$> filtered v
    | none =>
      if startsWithDefault filters then
        let v ← fallback
        negate negated <$> filtered v
      else if negated then pure (.bool true)
      else throw (unbound p)
  | .logic _ _ _ =>
    let v ← base
    negate negated <$> filtered (negate negated v)
  | _ =>
    let v ← base
    negate negated <$> filtered v

def numberOf (v : Value) : Eval σ (Option Number) :=
  match v with
  | .num n => pure (some n)
  | _ => throw .notNumeric

/-- An operation on two numbers: on integers of one signedness within their range, on floats otherwise. -/
def exactOr (onIntegers : Int → Int → Except Fault Int) (onFloats : Float → Float → Float)
    (a b : Number) : Except Fault (Option Number) :=
  match a.signed?, b.signed? with
  | some m, some n => do
    let r ← onIntegers m n
    if isSigned r then pure (some (.int r)) else .error .outOfBounds
  | _, _ =>
    match a.unsigned?, b.unsigned? with
    | some m, some n => do
      let r ← onIntegers m n
      if isUnsigned r then pure (some (.int r)) else .error .outOfBounds
    | _, _ => pure (Number.ofFloat? (onFloats a.toFloat b.toFloat))

/-- The quotient as a float; a whole one becomes an integer, clamped to the signed range. -/
def quotient (a b : Number) : Option Number :=
  let x := a.toFloat / b.toFloat
  if x.isNaN then none
  else if x.round == x && x.isFinite then some (.int (Filter.clampedInteger x))
  else Number.ofFloat? x

/-- The result of an operation in an expression; none stands for what is not a number. -/
def combine (op : Arithmetic) (a b : Number) : Except Fault (Option Number) :=
  match op with
  | .add => exactOr (fun m n => .ok (m + n)) (· + ·) a b
  | .sub => exactOr (fun m n => .ok (m - n)) (· - ·) a b
  | .mul => exactOr (fun m n => .ok (m * n)) (· * ·) a b
  | .div => .ok (quotient a b)
  | .mod =>
    exactOr (fun m n => if n = 0 then .error .moduloByZero else .ok (m.tmod n)) remainder a b

/-- The result of an operation, where one of the operands may be no number already. -/
def calculate (op : Arithmetic) (a b : Option Number) : Eval σ (Option Number) :=
  match a, b with
  | some a, some b => ofExcept (combine op a b)
  | _, _ => pure none

def ofNumber : Option Number → Value
  | some n => .num n
  | none => .str "NaN"

/-- Two values are equal. A number equals none but numbers, which are compared as floats. -/
def equal? (a b : Value) : Option Bool :=
  match a, b with
  | .num m, .num n => some (m.toFloat == n.toFloat)
  | .num _, _ | _, .num _ => none
  | a, b => some (a == b)

/-- A comparison of equality. Neither holds between a number and something else. -/
def compare (wanted : Bool) (a b : Value) : Bool := equal? a b == some wanted

def ordered (op : Logic) (x y : Float) : Bool :=
  match op with
  | .lt => x < y
  | .le => x ≤ y
  | .gt => x > y
  | .ge => x ≥ y
  | _ => false

def order (op : Logic) (a b : Option Number) : Eval σ Bool :=
  match a, b with
  | some a, some b => pure (ordered op a.toFloat b.toFloat)
  | _, _ => throw .incomparable

/-- Something is in a text, an array or an object. -/
def isIn (item container : Value) : Eval σ Bool :=
  match container, item with
  | .arr xs, x => pure (xs.any (· == x))
  | .str s, .str t => pure (Text.Find.occurs t.toList s.toList)
  | .obj m, .str k => pure (m.lookup k).isSome
  | _, _ => throw .notContainer

def joinable (v : Value) : Eval σ String :=
  match v with
  | .str s => pure s
  | .num n => pure n.toText
  | _ => throw .notJoinable

def callFunction (x : Setting σ) (name : String) (args : Eval σ Arguments) : Eval σ Value :=
  match Function.find? x.world name with
  | none => throw (.unknown .function name)
  | some f => within .function name do
    let args ← args
    let run ← get
    let (result, world) := f args run.world
    set { run with world := world }
    ofExcept result

def callFilter (name : String) (args : Eval σ Arguments) (v : Value) : Eval σ Value :=
  match Filter.find? name with
  | none => throw (.unknown .filter name)
  | some f => within .filter name do
    let args ← args
    ofExcept (f v args)

def callTest (name : String) (p : Place) (args : Eval σ (List Value)) : Eval σ Bool :=
  match Test.find? name with
  | none => throw (.unknown .test name)
  | some test => do
    let args ← within .test name args
    let v ← lookup p
    within .test name (ofExcept (test v args))

def literal : Operand → Value
  | .text s => .str s
  | .int n => .ofInt n
  | .float x => .ofFloat x
  | .bool b => .bool b
  | _ => .null

/-- The variables of a definition: its parameters with the given arguments or what stands for them. -/
def bindParameters (name : String) (args : Arguments) : List Parameter → Eval σ Arguments
  | [] => pure []
  | p :: r => do
    let v ← match args.lookup p.name, p.default? with
      | some v, _ => pure v
      | none, some o => pure (literal o)
      | none, none => throw (.missingParameter name p.name)
    let rest ← bindParameters name args r
    pure ((p.name, v) :: rest)

def inFrame (f : Frame) (body : Eval σ Output) : Eval σ Output := do
  let outer := (← get).scope
  modify fun run => { run with scope := f :: run.scope }
  let out ← body
  modify fun run => { run with scope := run.scope.drop (run.scope.length - outer.length) }
  pure out

def closed (out : Output) : Eval σ String :=
  if out.flow = .next then pure out.text else throw .notInLoop

/-- The text of a definition for given arguments. The arguments are worked out for its parameters only. -/
def expand (x : Setting σ) (library name : String) (args : (String → Bool) → Eval σ Arguments) :
    Eval σ String :=
  let found := if library == "self" then x.program.definitions.lookup name else none
  match found with
  | none => throw (.unknownDefinition library name)
  | some d => do
    let args ← args fun n => d.parameters.any (·.name == n)
    let bound ← bindParameters name args d.parameters
    let out ← inFrame ⟨.definition library name, bound, none⟩ do
      let out ← x.elsewhere d.body
      let text ← closed out
      pure ⟨text, .next⟩
    pure out.text

structure Side (σ : Type) where
  value : Eval σ Value
  truth : Eval σ Bool
  number : Eval σ (Option Number)

def condition (op : Logic) (lhs rhs : Side σ) : Eval σ Bool :=
  match op with
  | .and => do if ← lhs.truth then rhs.truth else pure false
  | .or => do if ← lhs.truth then pure true else rhs.truth
  | .eq => do pure (compare true (← lhs.value) (← rhs.value))
  | .ne => do pure (compare false (← lhs.value) (← rhs.value))
  | op => do order op (← lhs.number) (← rhs.number)

/-- The truth of an expression by that of its operand or by its value. A place that fails is false; a joined
text is asked with its filters, and other operands without. -/
def settleTruth (o : Operand) (negated : Bool) (value : Eval σ Value) (operand : Eval σ Bool) :
    Eval σ Bool := do
  let b ← match o with
    | .place _ => do
      let v ← tryCatch value fun _ => pure (.bool false)
      pure (Data.truth v != negated)
    | .joined _ => Data.truth <$> value
    | _ => operand
  pure (b != negated)

/-- The number of an expression: that of its operand, or that of its value if there are filters. -/
def settleNumber (filters : List Call) (value : Eval σ Value) (operand : Eval σ (Option Number)) :
    Eval σ (Option Number) := do
  if filters.isEmpty then operand else numberOf (← value)

def numberTruth (n : Option Number) : Bool :=
  match n with
  | some n => n.toFloat != 0.0
  | none => false

def resultTruth (name : String) (v : Value) : Eval σ Bool :=
  match v with
  | .bool b => pure b
  | _ => throw (.notTruth name)

/-- A computation inside arithmetic, of whose fault only the outermost cause is told. -/
def inArithmetic {α : Type} (a : Eval σ α) : Eval σ α :=
  tryCatch a fun e => throw (.inArithmetic (e.chain.headD ""))

mutual

def value (x : Setting σ) : Expr → Eval σ Value
  | .mk o filters negated =>
    settle o filters negated (operandValue x o) (fallback x filters) (filtered x filters)

def truth (x : Setting σ) : Expr → Eval σ Bool
  | .mk o filters negated =>
    settleTruth o negated
      (settle o filters negated (operandValue x o) (fallback x filters) (filtered x filters))
      (operandTruth x o)

def number (x : Setting σ) : Expr → Eval σ (Option Number)
  | .mk o filters negated =>
    settleNumber filters
      (settle o filters negated (operandValue x o) (fallback x filters) (filtered x filters))
      (operandNumber x o)

/-- The value of an operand that is not a place. -/
def operandValue (x : Setting σ) : Operand → Eval σ Value
  | .text s => pure (.str s)
  | .int n => pure (.ofInt n)
  | .float y => pure (.ofFloat y)
  | .bool b => pure (.bool b)
  | .place _ => pure .null
  | .arithmetic op lhs rhs => inArithmetic do
    ofNumber <$> calculate op (← number x lhs) (← number x rhs)
  | .logic op lhs rhs =>
    .bool <$> condition op ⟨value x lhs, truth x lhs, number x lhs⟩ ⟨value x rhs, truth x rhs, number x rhs⟩
  | .test p name args negated => do
    let b ← callTest name p (values x args)
    pure (.bool (b != negated))
  | .member item container negated => do
    let b ← isIn (← value x item) (← value x container)
    pure (.bool (b != negated))
  | .array items => .arr <$> values x items
  | .joined parts => do pure (.str (← joinedText x parts))
  | .call c => call x c
  | .expand library name args => do pure (.str (← expand x library name fun p => arguments x p args))

/-- The truth of an operand that is neither a place nor a joined text. -/
def operandTruth (x : Setting σ) : Operand → Eval σ Bool
  | .text s => pure (!s.isEmpty)
  | .int n => pure (n ≠ 0)
  | .float y => pure (y != 0.0)
  | .bool b => pure b
  | .place _ => pure false
  | .arithmetic op lhs rhs => do
    numberTruth <$> calculate op (← number x lhs) (← number x rhs)
  | .logic op lhs rhs =>
    condition op ⟨value x lhs, truth x lhs, number x lhs⟩ ⟨value x rhs, truth x rhs, number x rhs⟩
  | .test p name args negated => do
    let b ← callTest name p (values x args)
    pure (b != negated)
  | .member item container negated => do
    let b ← isIn (← value x item) (← value x container)
    pure (b != negated)
  | .array items => do pure (!(← values x items).isEmpty)
  | .joined _ => pure false
  | .call c => do resultTruth c.name (← call x c)
  | .expand library name args => do
    pure !(← expand x library name fun p => arguments x p args).isEmpty

def operandNumber (x : Setting σ) : Operand → Eval σ (Option Number)
  | .int n => pure (some (.int n))
  | .float y => pure (Number.ofFloat? y)
  | .place p => do
    match ← lookup p with
    | some v => numberOf v
    | none => throw (unbound p)
  | .arithmetic op lhs rhs => do calculate op (← number x lhs) (← number x rhs)
  | .call c => do numberOf (← call x c)
  | _ => throw .notNumeric

def call (x : Setting σ) : Call → Eval σ Value
  | .mk name args => callFunction x name (arguments x (fun _ => true) args)

def values (x : Setting σ) : List Expr → Eval σ (List Value)
  | [] => pure []
  | e :: r => do
    let v ← value x e
    let vs ← values x r
    pure (v :: vs)

def argument (x : Setting σ) : Arg → Eval σ (String × Value)
  | .mk name e => do pure (name, ← value x e)

/-- The values of those named arguments that are wanted. -/
def arguments (x : Setting σ) (wanted : String → Bool) : List Arg → Eval σ Arguments
  | [] => pure []
  | a :: r => do
    let first ← if wanted a.name then List.singleton <$> argument x a else pure []
    let others ← arguments x wanted r
    pure (first ++ others)

def part (x : Setting σ) : Operand → Eval σ String
  | .text s => pure s
  | .int n => pure (toString n)
  | .float y => pure (positional y)
  | .place p => do
    match ← lookup p with
    | some v => joinable v
    | none => throw (unbound p)
  | .call c => do joinable (← call x c)
  | _ => throw .notJoinable

def joinedText (x : Setting σ) : List Operand → Eval σ String
  | [] => pure ""
  | o :: r => do
    let s ← part x o
    let rest ← joinedText x r
    pure (s ++ rest)

/-- The value that stands for a missing one: an argument of the first filter. -/
def fallback (x : Setting σ) : List Call → Eval σ Value
  | [] => throw (.missingArgument .filter "default" "value")
  | c :: _ => ownFallback x c

/-- The value that a filter names to stand for a missing one. -/
def ownFallback (x : Setting σ) : Call → Eval σ Value
  | .mk name args => do
    match (← arguments x (· == "value") args).head? with
    | some a => pure a.2
    | none => throw (.missingArgument .filter name "value")

def afterFilter (x : Setting σ) (v : Value) : Call → Eval σ Value
  | .mk name args =>
    if isSilent name then pure v else callFilter name (arguments x (fun _ => true) args) v

def filtered (x : Setting σ) : List Call → Value → Eval σ Value
  | [], v => pure v
  | c :: r, v => do filtered x r (← afterFilter x v c)

end

end Evaluation

end Stencil.Template
