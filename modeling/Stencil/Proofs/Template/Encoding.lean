import Stencil.Proofs.Text.Find
import Stencil.Template.Delimiter

set_option autoImplicit false
set_option relaxedAutoImplicit false

/-!
How a text and an action of a source are written with the usual delimiters, told without the functions that do so. Main
statements: the encoding of a text, and that of an action, is what is written for it.
-/

namespace Stencil.Template.Delimiter

open Stencil.Text

/-- A text misleads if an action begins in it, or could begin in it with what follows. -/
def Misleads (s : List Char) : Prop :=
  (∃ c ∈ ['\x7b', '%', '#'], ['\x7b', c] <:+: s) ∨ ∃ t, s = t ++ ['\x7b']

/-- Tags stand between two percent signs, and comments between two hashes. -/
def IsBetweenMarks (s : List Char) : Prop := ∃ mark ∈ ['%', '#'], ∃ inner, s = mark :: (inner ++ [mark])

inductive WritesText (s : List Char) : List Char → Prop
  | plain : ¬Misleads s → WritesText s s
  | guarded : Misleads s → WritesText s ("\x7b% raw %\x7d".toList ++ s ++ "\x7b% endraw %\x7d".toList)

inductive WritesAction (s : List Char) : List Char → Prop
  | marked : IsBetweenMarks s → WritesAction s ("\x7b".toList ++ s ++ "\x7d".toList)
  | expression : ¬IsBetweenMarks s → WritesAction s ("\x7b\x7b".toList ++ s ++ "\x7d\x7d".toList)

variable {s out : List Char}

theorem looksLikeAction_eq_true_iff (s : List Char) : looksLikeAction s = true ↔ Misleads s := by
  have hlast : s.getLast? = some '\x7b' ↔ ∃ t, s = t ++ ['\x7b'] := List.getLast?_eq_some_iff
  simp only [looksLikeAction, Misleads, Bool.or_eq_true, Find.occurs_eq_true_iff, beq_iff_eq, hlast, List.mem_cons,
    List.not_mem_nil, or_false, exists_eq_or_imp, exists_eq_left, or_assoc]

theorem isMarked_eq_true_iff (mark : Char) (s : List Char) :
    isMarked mark s = true ↔ ∃ inner, s = mark :: (inner ++ [mark]) := by
  simp only [isMarked, Bool.and_eq_true, decide_eq_true_eq, beq_iff_eq]
  constructor
  · rintro ⟨⟨hlength, hhead⟩, hlast⟩
    obtain ⟨t, rfl⟩ := List.head?_eq_some_iff.mp hhead
    have ht : t ≠ [] := by
      rintro rfl
      simp at hlength
    rw [List.getLast?_cons_of_ne_nil ht] at hlast
    obtain ⟨inner, rfl⟩ := List.getLast?_eq_some_iff.mp hlast
    exact ⟨inner, rfl⟩
  · rintro ⟨inner, rfl⟩
    refine ⟨⟨by simp, rfl⟩, ?_⟩
    rw [← List.cons_append, List.getLast?_concat]

theorem marked_iff (s : List Char) : (isMarked '%' s || isMarked '#' s) = true ↔ IsBetweenMarks s := by
  simp [IsBetweenMarks, isMarked_eq_true_iff]

instance : DecidablePred Misleads := fun s => decidable_of_iff _ (looksLikeAction_eq_true_iff s)

instance : DecidablePred IsBetweenMarks := fun s => decidable_of_iff _ (marked_iff s)

theorem encode_text_eq_iff : encode (.text s) = out ↔ WritesText s out := by
  rw [encode]
  split
  · next hlooks =>
    have hs := (looksLikeAction_eq_true_iff s).mp hlooks
    constructor
    · rintro rfl
      exact .guarded hs
    · rintro (hnot | _)
      · exact absurd hs hnot
      · rfl
  · next hlooks =>
    have hs : ¬Misleads s := (looksLikeAction_eq_true_iff s).not.mp hlooks
    constructor
    · rintro rfl
      exact .plain hs
    · rintro (_ | h)
      · rfl
      · exact absurd h hs

theorem encode_action_eq_iff : encode (.action s) = out ↔ WritesAction s out := by
  rw [encode]
  split
  · next hmarked =>
    have hs := (marked_iff s).mp hmarked
    constructor
    · rintro rfl
      exact .marked hs
    · rintro (_ | hnot)
      · rfl
      · exact absurd hs hnot
  · next hmarked =>
    have hs : ¬IsBetweenMarks s := (marked_iff s).not.mp hmarked
    constructor
    · rintro rfl
      exact .expression hs
    · rintro (h | _)
      · exact absurd h hs
      · rfl

end Stencil.Template.Delimiter
