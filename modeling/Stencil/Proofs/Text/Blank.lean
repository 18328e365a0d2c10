import Mathlib.Logic.Basic
import Stencil.Text.Blank

set_option autoImplicit false
set_option relaxedAutoImplicit false

/-!
What is left of a text without the blanks at its ends. Main statement: it is the text without blanks that could still be
removed.
-/

namespace Stencil.Text.Blank

/-- A text is another one without the blanks at its ends. -/
structure Trims (s t : List Char) : Prop where
  cut : ∃ front back, s = front ++ t ++ back ∧ ∀ c ∈ front ++ back, isBlank c
  head : ∀ c ∈ t.head?, ¬isBlank c
  last : ∀ c ∈ t.getLast?, ¬isBlank c

/-- A text is another one without the blanks behind it. -/
structure TrimsEnd (s t : List Char) : Prop where
  cut : ∃ back, s = t ++ back ∧ ∀ c ∈ back, isBlank c
  last : ∀ c ∈ t.getLast?, ¬isBlank c

variable {s t : List Char}

theorem trimsEnd_trimEnd (s : List Char) : TrimsEnd s (trimEnd s) := by
  refine ⟨⟨(s.reverse.takeWhile isBlank).reverse, ?_, fun c hc => ?_⟩, fun c hc => ?_⟩
  · rw [trimEnd, ← List.reverse_append, List.takeWhile_append_dropWhile, List.reverse_reverse]
  · exact List.all_eq_true.mp List.all_takeWhile c (List.mem_reverse.mp hc)
  · have hnot := List.head?_dropWhile_not isBlank s.reverse
    rw [trimEnd, List.getLast?_reverse] at hc
    rw [Option.mem_def.mp hc] at hnot
    simpa using hnot

theorem trimEnd_eq_iff : trimEnd s = t ↔ TrimsEnd s t := by
  constructor
  · rintro rfl
    exact trimsEnd_trimEnd s
  · rintro ⟨⟨back, rfl, hback⟩, hlast⟩
    have hblank : ∀ c ∈ back.reverse, isBlank c = true := fun c hc => hback c (List.mem_reverse.mp hc)
    have hkept : t.reverse.dropWhile isBlank = t.reverse := by
      rw [← List.head?_reverse] at hlast
      cases hreverse : t.reverse with
      | nil => rfl
      | cons c r =>
        have hc : ¬isBlank c := hlast c (by rw [hreverse]; rfl)
        rw [List.dropWhile_cons_of_neg hc]
    rw [trimEnd, List.reverse_append, List.dropWhile_append_of_pos hblank, hkept, List.reverse_reverse]

theorem trims_trim (s : List Char) : Trims s (trim s) := by
  have hstart : s = s.takeWhile isBlank ++ trimStart s := List.takeWhile_append_dropWhile.symm
  obtain ⟨⟨back, hend, hback⟩, hlast⟩ := trimsEnd_trimEnd (trimStart s)
  refine ⟨⟨s.takeWhile isBlank, back, ?_, fun c hc => ?_⟩, fun c hc => ?_, hlast⟩
  · rw [List.append_assoc, trim, ← hend]
    exact hstart
  · rcases List.mem_append.mp hc with hc | hc
    · exact List.all_eq_true.mp List.all_takeWhile c hc
    · exact hback c hc
  · -- what is cut off at the end leaves the beginning as it was
    have hhead : (trimStart s).head? = some c := by
      rw [hend, List.head?_append, ← trim, Option.mem_def.mp hc]
      rfl
    have hnot := List.head?_dropWhile_not isBlank s
    rw [show s.dropWhile isBlank = trimStart s from rfl, hhead] at hnot
    simpa using hnot

end Stencil.Text.Blank
