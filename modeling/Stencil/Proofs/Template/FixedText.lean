import Stencil.Proofs.Template.Evaluation
import Stencil.Template.Engine

set_option autoImplicit false
set_option relaxedAutoImplicit false

/-!
Parts of a template that write a fixed text. Main statement: the text of a program of such parts is that text, in
every world and without a question to it.
-/

namespace Stencil.Template

open Stencil.Json Evaluation

def plain : Edges := ⟨false, false⟩

/-- A part that writes a fixed text, and next to which no blanks are removed. -/
inductive Writes : Node → List Char → Prop
  | text {s} (filled : s ≠ []) : Writes (.text s) s
  | raw (s) : Writes (.raw plain s plain) s
  | output (s) : Writes (.output plain (Operand.text (String.ofList s)).toExpr) s

/-- Parts that write a fixed text together. -/
inductive WritesAll : List Node → List Char → Prop
  | nil : WritesAll [] []
  | cons {n ns s t} (first : Writes n s) (rest : WritesAll ns t) : WritesAll (n :: ns) (s ++ t)

theorem WritesAll.append {ns ms : List Node} {s t : List Char} (h : WritesAll ns s) (h' : WritesAll ms t) :
    WritesAll (ns ++ ms) (s ++ t) := by
  induction h with
  | nil => exact h'
  | cons first _ ih =>
    rw [List.append_assoc]
    exact .cons first ih

theorem Writes.trimBody_cons {n : Node} {s : List Char} (h : Writes n s) {ns : List Node}
    (hns : nextTrims false ns = false) : trimBody false false (n :: ns) = n :: trimBody false false ns := by
  cases h with
  | @text s hs =>
    cases s with
    | nil => exact absurd rfl hs
    | cons c s => simp [trimBody, trimmed, hns]
  | raw s => rfl
  | output s => rfl

theorem WritesAll.nextTrims_eq {ns : List Node} {s : List Char} (h : WritesAll ns s) : nextTrims false ns = false := by
  cases h with
  | nil => rfl
  | cons first _ => cases first <;> rfl

theorem WritesAll.trimBody_eq {ns : List Node} {s : List Char} (h : WritesAll ns s) :
    trimBody false false ns = ns := by
  induction h with
  | nil => rfl
  | cons first rest ih => rw [first.trimBody_cons rest.nextTrims_eq, ih]

/-- A part that writes a fixed text, whatever blanks it removes. -/
inductive Puts : Node → List Char → Prop
  | text (s) : Puts (.text s) s
  | raw (e s e') : Puts (.raw e s e') s
  | output (e s) : Puts (.output e (Operand.text (String.ofList s)).toExpr) s

/-- Parts that write a fixed text together, whatever blanks they remove. -/
inductive PutsAll : List Node → List Char → Prop
  | nil : PutsAll [] []
  | cons {n ns s t} (first : Puts n s) (rest : PutsAll ns t) : PutsAll (n :: ns) (s ++ t)

theorem Writes.puts {n : Node} {s : List Char} (h : Writes n s) : Puts n s := by
  cases h with
  | text _ => exact .text _
  | raw => exact .raw _ _ _
  | output => exact .output _ _

theorem WritesAll.putsAll {ns : List Node} {s : List Char} (h : WritesAll ns s) : PutsAll ns s := by
  induction h with
  | nil => exact .nil
  | cons first _ ih => exact .cons first.puts ih

theorem PutsAll.definitionsOf_eq {ns : List Node} {s : List Char} (h : PutsAll ns s) : definitionsOf ns = [] := by
  induction h with
  | nil => rfl
  | cons first _ ih => cases first <;> exact ih

theorem PutsAll.blocksOf_eq {ns : List Node} {s : List Char} (h : PutsAll ns s) : blocksOf ns = [] := by
  induction h with
  | nil => rfl
  | cons first _ ih => cases first <;> simp [blocksOf, Node.blocks, ih]

section Rendering

variable {σ : Type}

theorem Puts.node_run {n : Node} {s : List Char} (h : Puts n s) (x : Setting σ) (r : Run σ) :
    (Rendering.node x n).run.run r = (.ok ⟨String.ofList s, .next⟩, r) := by
  cases h with
  | text => rfl
  | raw => rfl
  | output e s =>
    have hvalue : value x (Operand.text (String.ofList s)).toExpr = pure (.str (String.ofList s)) := by
      simp [Operand.toExpr, value, settle, operandValue, filtered, negate]
    rw [Rendering.node, hvalue]
    rfl

theorem PutsAll.nodes_run {ns : List Node} {s : List Char} (h : PutsAll ns s) (x : Setting σ) (r : Run σ) :
    (Rendering.nodes x ns).run.run r = (.ok ⟨String.ofList s, .next⟩, r) := by
  induction h with
  | nil => rfl
  | @cons n ns s t first _ ih =>
    rw [Rendering.nodes, run_bind, first.node_run]
    simp only [ne_eq, not_true_eq_false, if_false]
    rw [run_bind, ih, String.ofList_append]
    rfl

/-- The text of a program of parts that write a fixed text is that text, in every world and without a question. -/
theorem PutsAll.render_eq {p : Program} {s : List Char} (h : PutsAll p.body s) (w : World σ) (state : σ) :
    render w p state = (.ok (String.ofList s), state) := by
  have hdepth : Rendering.atDepth w p Rendering.depthLimit p.body =
      Rendering.nodes ⟨w, p, Rendering.atDepth w p 9999⟩ p.body := rfl
  have hprogram : (Rendering.program w p).run.run ⟨[.page], state⟩ = (.ok (String.ofList s), ⟨[.page], state⟩) := by
    rw [Rendering.program, hdepth, run_bind, h.nodes_run]
    rfl
  rw [render, hprogram]

end Rendering

end Stencil.Template
