import Stencil.Template.Evaluation
import Stencil.Text.Cluster

set_option autoImplicit false
set_option relaxedAutoImplicit false

/-!
The text of a template, part by part.
-/

namespace Stencil.Template.Rendering

open Stencil.Json Evaluation

variable {σ : Type}

/-- What a loop runs through, each with its key if there is one. -/
def entries : Value → Option (List (Option String × Value))
  | .arr xs => some (xs.map (none, ·))
  | .str s => some ((Text.Cluster.clusters s.toList).map fun c => (none, .str (String.ofList c)))
  | .obj m => some (m.map fun e => (some e.1, e.2))
  | _ => none

/-- The rounds of a loop over a value: one name for an array or a text, two for an object. -/
def rounds? (names : List String) (v : Value) : Option (List Round) :=
  match names, v with
  | [_], .obj _ => none
  | [_, _], .arr _ | [_, _], .str _ => none
  | names, v =>
    (entries v).map fun es => es.zipIdx.map fun (e, i) =>
      { key? := e.1.bind fun k => names.head?.map fun n => (n, k)
        name := names.getLastD ""
        value := e.2
        index := i
        count := es.length }

/-- A loop can run through a place, the result of a function, or an array that is written out. -/
def isLoopable (container : Expr) : Bool :=
  match container.operand with
  | .place _ | .call _ | .array _ => true
  | _ => false

def runRounds (body : Eval σ Output) : List Round → Eval σ String
  | [] => pure ""
  | r :: rest => do
    let out ← inFrame ⟨.loop, [], some r⟩ body
    if out.flow = .leave then pure out.text
    else do
      let others ← runRounds body rest
      pure (out.text ++ others)

/-- A loop: the text of its rounds, or of the part for when there are none. -/
def runLoop (names : List String) (container : Expr) (v : Eval σ Value) (body empty : Eval σ Output) :
    Eval σ Output := do
  if !isLoopable container then throw .notIterable
  match rounds? names (← v) with
  | none => throw .notIterable
  | some [] => empty
  | some rounds => do
    let text ← runRounds body rounds
    pure ⟨text, .next⟩

def written (text : String) : Eval σ Output := pure ⟨text, .next⟩

def inclusion (x : Setting σ) (names : List String) (optional : Bool) : Eval σ Output := do
  if names.contains x.program.name then
    inFrame ⟨.inclusion, [], none⟩ (x.elsewhere x.program.body)
  else if optional then written ""
  else throw (.missingTemplates names)

mutual

def node (x : Setting σ) : Node → Eval σ Output
  | .text s => written (String.ofList s)
  | .raw _ s _ => written (String.ofList s)
  | .comment _ => written ""
  | .output _ e => do written (Data.text (← value x e))
  | .assign _ everywhere name e => do
    let v ← value x e
    modify fun run => { run with
      scope := if everywhere then run.scope.setEverywhere name v else run.scope.set name v }
    written ""
  | .include _ names optional => inclusion x names optional
  | .leave _ => pure ⟨"", .leave⟩
  | .continue _ => pure ⟨"", .continue⟩
  | .overridden => throw .nothingOverridden
  | .loop _ names container body empty _ =>
    runLoop names container (value x container) (nodes x body) (nodes x empty)
  | .branch arms => branch x arms
  | .filtered _ (.mk name args) body _ => do
    let out ← nodes x body
    if name == "safe" then pure out
    else do
      let v ← callFilter name (arguments x (fun _ => true) args) (.str out.text)
      pure ⟨Data.text v, out.flow⟩
  | .block _ name body _ =>
    match x.program.blocks.lookup name with
    | some registered => x.elsewhere registered
    | none => nodes x body
  | .define _ _ _ _ _ => written ""

def branch (x : Setting σ) : Arms → Eval σ Output
  | .close _ => written ""
  | .otherwise _ body _ => nodes x body
  | .arm _ condition body rest => do
    if ← truth x condition then nodes x body else branch x rest

/-- The output of parts in order, up to one that ends the round of a loop. -/
def nodes (x : Setting σ) : List Node → Eval σ Output
  | [] => written ""
  | n :: r => do
    let first ← node x n
    if first.flow ≠ .next then pure first
    else do
      let others ← nodes x r
      pure ⟨first.text ++ others.text, others.flow⟩

end

/-- The output of a body, where bodies are entered from elsewhere down to a depth. -/
def atDepth (w : World σ) (p : Program) : Nat → List Node → Eval σ Output
  | 0, _ => throw .tooDeep
  | n + 1, body => nodes ⟨w, p, atDepth w p n⟩ body

def depthLimit : Nat := 10000

def program (w : World σ) (p : Program) : Eval σ String := do
  let out ← atDepth w p depthLimit p.body
  closed out

end Stencil.Template.Rendering
