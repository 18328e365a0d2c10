import Stencil.Proofs.Template.Quotation
import Stencil.Proofs.Template.Raw
import Stencil.Template.Delimiter

set_option autoImplicit false
set_option relaxedAutoImplicit false

/-!
Outputs, and actions that say a text between quotation marks. Main statement: such an action between the usual
delimiters is read as an output of the text, whose edges have the dashes of the action.
-/

namespace Stencil.Template.NodeParser

open Stencil.Text Stencil.Template.Parser

/-- An action that says a text between quotation marks, as it is written: blanks may stand around it, and a dash at both
ends. -/
def IsQuotation (e : Edges) (s action : List Char) : Prop :=
  ∃ q before after, q ∈ ExprParser.marks ∧ q ∉ s ∧ (∀ c ∈ before, isLayout c) ∧ (∀ c ∈ after, isLayout c) ∧
    action = dash e.left ++ (before ++ q :: (s ++ q :: (after ++ dash e.right)))

theorem outputOf_append {α : Type} {p : Parser α} {e : Edges} {a : α} {s t r : List Char}
    (hs : e.left = false → s.head? ≠ some '-') (hp : p (s.dropWhile isLayout) = some (a, t))
    (ht : t.dropWhile isLayout = dash e.right ++ '\x7d' :: '\x7d' :: r) :
    outputOf p ('\x7b' :: '\x7b' :: (dash e.left ++ s)) = some ((e, a), r) := by
  have hopening : (word "\x7b\x7b-" true <|> word "\x7b\x7b" false : Parser Bool)
      ('\x7b' :: '\x7b' :: (dash e.left ++ s)) = some (e.left, s) := by
    cases hleft : e.left with
    | true => simp [word, literal, Find.after?, dash]
    | false =>
      cases s with
      | nil => simp [word, literal, Find.after?, dash]
      | cons c s =>
        have hc : '-' ≠ c := by simpa [eq_comm] using hs hleft
        simp [word, literal, Find.after?, dash, hc]
  have hclosing : (word "-\x7d\x7d" true <|> word "\x7d\x7d" false : Parser Bool)
      (dash e.right ++ '\x7d' :: '\x7d' :: r) = some (e.right, r) := by
    cases e.right <;> simp [word, literal, Find.after?, dash]
  rw [outputOf, bind_apply, hopening]
  simp only [bind_apply, skip_apply, pure_apply, Option.bind_some, hp, ht, hclosing]

variable {e : Edges} {s action : List Char}

theorem IsQuotation.head (h : IsQuotation e s action) :
    ∃ c r, action = c :: r ∧ (c = '-' ∨ isLayout c ∨ c ∈ ExprParser.marks) := by
  obtain ⟨q, before, after, hq, -, hbefore, -, rfl⟩ := h
  cases e.left with
  | true => exact ⟨_, _, rfl, .inl rfl⟩
  | false =>
    cases before with
    | nil => exact ⟨_, _, rfl, .inr (.inr hq)⟩
    | cons c before => exact ⟨_, _, rfl, .inr (.inl (hbefore c List.mem_cons_self))⟩

theorem IsQuotation.encode_eq (h : IsQuotation e s action) :
    Delimiter.encode (.action action) = "\x7b\x7b".toList ++ (action ++ "\x7d\x7d".toList) := by
  have hmarked (mark : Char) (hmark : mark ∈ ['%', '#']) : Delimiter.isMarked mark action = false := by
    obtain ⟨c, r, rfl, hc⟩ := h.head
    have hne : c ≠ mark := by
      rintro rfl
      revert hc
      simp only [List.mem_cons, List.not_mem_nil, or_false] at hmark
      rcases hmark with rfl | rfl <;> decide
    simp [Delimiter.isMarked, hne]
  simp [Delimiter.encode, hmarked]

/-- A quotation between the usual delimiters is read as an output of its text, at every depth of nesting. -/
theorem IsQuotation.outputOf_eq (h : IsQuotation e s action) (n : Nat) (r : List Char) :
    outputOf (Exprs.of (ExprParser.level (n + 1))).value ("\x7b\x7b".toList ++ (action ++ ("\x7d\x7d".toList ++ r))) =
      some ((e, (Operand.text (String.ofList s)).toExpr), r) := by
  obtain ⟨q, before, after, hq, hs, hbefore, hafter, rfl⟩ := h
  have hmark : ¬isLayout q ∧ q ≠ '-' := by
    rcases ExprParser.eq_of_mem_marks hq with rfl | rfl | rfl <;> decide
  have hend : (dash e.right ++ '\x7d' :: '\x7d' :: r).dropWhile isLayout = dash e.right ++ '\x7d' :: '\x7d' :: r := by
    cases e.right <;> simp [dash, isLayout]
  have hafter' : (after ++ (dash e.right ++ '\x7d' :: '\x7d' :: r)).dropWhile isLayout =
      dash e.right ++ '\x7d' :: '\x7d' :: r := by
    rw [List.dropWhile_append_of_pos hafter, hend]
  have hends : ExprParser.EndsOutput (after ++ (dash e.right ++ '\x7d' :: '\x7d' :: r)) := by
    refine ⟨r, ?_⟩
    rw [hafter']
    cases e.right <;> simp [dash]
  have hvalue := ExprParser.value_quoted hq hs hends n
  have hbefore' : ∀ x, (before ++ q :: x).dropWhile isLayout = q :: x := fun x => by
    rw [List.dropWhile_append_of_pos hbefore, List.dropWhile_cons_of_neg hmark.1]
  have hdash : ∀ x, (before ++ q :: x).head? ≠ some '-' := by
    intro x
    cases before with
    | nil => simpa using hmark.2
    | cons c before =>
      rintro h
      obtain rfl : c = '-' := by simpa using h
      exact absurd (hbefore '-' List.mem_cons_self) (by decide)
  have hinput : "\x7b\x7b".toList ++ (dash e.left ++ (before ++ q :: (s ++ q :: (after ++ dash e.right))) ++
      ("\x7d\x7d".toList ++ r)) =
        '\x7b' :: '\x7b' :: (dash e.left ++
          (before ++ q :: (s ++ q :: (after ++ (dash e.right ++ '\x7d' :: '\x7d' :: r))))) := by
    simp
  rw [hinput]
  refine outputOf_append (fun _ => hdash _) (t := dash e.right ++ '\x7d' :: '\x7d' :: r) ?_ hend
  rw [hbefore']
  exact hvalue.trans (by rw [hafter'])

end Stencil.Template.NodeParser
