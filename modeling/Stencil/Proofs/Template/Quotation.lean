import Stencil.Proofs.Template.Parser
import Stencil.Proofs.Text.Find
import Stencil.Template.NodeParser

set_option autoImplicit false
set_option relaxedAutoImplicit false

/-!
How a text between quotation marks is read where an expression is wanted. Main statement: in front of the end of an
output the expression is that text and nothing else, at every depth of nesting and with any of the three marks.
-/

namespace Stencil.Template.ExprParser

open Stencil.Text Stencil.Template.Parser

def marks : List Char := ['"', '\'', '\x60']

def EndsOutput (t : List Char) : Prop :=
  ∃ r, t.dropWhile isLayout = '\x7d' :: '\x7d' :: r ∨ t.dropWhile isLayout = '-' :: '\x7d' :: '\x7d' :: r

variable {q : Char} {s t : List Char}

theorem eq_of_mem_marks (hq : q ∈ marks) : q = '"' ∨ q = '\'' ∨ q = '\x60' := by simpa [marks] using hq

theorem string_quoted (hq : q ∈ marks) (hs : q ∉ s) (r : List Char) :
    string (q :: (s ++ q :: r)) = some (String.ofList s, r) := by
  have hcut := (Find.cut?_singleton_eq_some_iff q (s ++ q :: r) s r).mpr ⟨rfl, hs⟩
  rcases eq_of_mem_marks hq with rfl | rfl | rfl <;> simp [string, quoted, quotedBy, hcut]

variable (inner : Inner) (value items : Parser Expr)

theorem part_quoted (hq : q ∈ marks) (hs : q ∉ s) (r : List Char) :
    part inner value (q :: (s ++ q :: r)) = some (.text (String.ofList s), r) := by
  have hstring := string_quoted hq hs r
  rcases eq_of_mem_marks hq with rfl | rfl | rfl <;>
    simp [part, call, nameString, name, isNameStart, float, int, sign, perhaps, literal, Find.after?, wholeDigits,
      hstring]

theorem textExpr_quoted (hq : q ∈ marks) (hs : q ∉ s) (ht : EndsOutput t) :
    textExpr inner value (q :: (s ++ q :: t)) = some ((Operand.text (String.ofList s)).toExpr, t) := by
  obtain ⟨r, ht⟩ := ht
  have hfilters : filters value t = some ([], t) := by
    refine many_of_none ?_
    rcases ht with ht | ht <;> simp [filter, literal, Find.after?, ht]
  have hjoined : joined inner value (q :: (s ++ q :: t)) = none := by
    rcases ht with ht | ht <;> simp [joined, part_quoted inner value hq hs, literal, Find.after?, ht]
  simp [textExpr, hjoined, string_quoted hq hs, hfilters]
  rfl

theorem logicOperand_quoted (hq : q ∈ marks) (hs : q ∉ s) (ht : EndsOutput t) :
    logicOperand inner value items (q :: (s ++ q :: t)) =
      some ((Operand.text (String.ofList s)).toExpr, t.dropWhile isLayout) := by
  have htext := textExpr_quoted inner value hq hs ht
  have hnot : perhaps (keyword "not") (q :: (s ++ q :: t)) = some (none, q :: (s ++ q :: t)) := by
    rcases eq_of_mem_marks hq with rfl | rfl | rfl <;> simp [perhaps, keyword, literal, Find.after?]
  have hskip : (q :: (s ++ q :: t)).dropWhile isLayout = q :: (s ++ q :: t) := by
    rcases eq_of_mem_marks hq with rfl | rfl | rfl <;> simp [isLayout]
  obtain ⟨r, ht⟩ := ht
  have hmember : membership inner value items (q :: (s ++ q :: t)) = none := by
    rcases ht with ht | ht <;> simp [membership, htext, keyword, perhaps, literal, Find.after?, isLayout, ht]
  have hcomparison : comparison inner value (q :: (s ++ q :: t)) =
      some ((Operand.text (String.ofList s)).toExpr, t.dropWhile isLayout) := by
    rcases ht with ht | ht <;>
      simp [comparison, htext, comparisonOp, word, perhaps, literal, Find.after?, ht]
  simp [logicOperand, hnot, hskip, hmember, hcomparison]
  rfl

theorem exprOf_quoted (hq : q ∈ marks) (hs : q ∉ s) (ht : EndsOutput t) :
    exprOf inner value items (q :: (s ++ q :: t)) =
      some ((Operand.text (String.ofList s)).toExpr, t.dropWhile isLayout) := by
  have hoperand := logicOperand_quoted inner value items hq hs ht
  obtain ⟨r, ht⟩ := ht
  have hconnectives : ∀ p : Parser Expr, manySkipping (do
      let op ← oneOf [do keyword "or"; pure Logic.or, do keyword "and"; pure Logic.and]
      skip
      let e ← p
      pure (op, e)) (t.dropWhile isLayout) = some ([], t.dropWhile isLayout) := by
    refine fun p => many_of_none ?_
    rcases ht with ht | ht <;> simp [keyword, literal, Find.after?, isLayout, ht]
  rw [exprOf, bind_apply, hoperand, Option.bind_some, bind_apply, hconnectives]
  rfl

theorem value_quoted (hq : q ∈ marks) (hs : q ∉ s) (ht : EndsOutput t) (n : Nat) :
    (level (n + 1)).value (q :: (s ++ q :: t)) =
      some ((Operand.text (String.ofList s)).toExpr, t.dropWhile isLayout) := by
  have hexpr := exprOf_quoted (level n).inner (level n).value (level n).items hq hs ht
  rw [Level.value, orElse_apply]
  exact congrArg (Option.or · _) hexpr

end Stencil.Template.ExprParser
