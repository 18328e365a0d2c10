import Stencil.Proofs.Text.Find
import Stencil.Settings.Descriptor

set_option autoImplicit false
set_option relaxedAutoImplicit false

/-!
Templates as a command line describes them. Main statement: a text describes one exactly if there is something in front
of its first colon and something between that and the next one, and what is read of it is written as the same text
again, but for a third part of blanks.
-/

namespace Stencil.Settings.Descriptor

open Stencil.Text

/-- A source and an output with a colon between them, and perhaps a third part behind a further colon. -/
def line (source output : String) (third : Option String) : String :=
  source ++ ":" ++ output ++ match third with
    | none => ""
    | some c => ":" ++ c

/-- The parts of a text between its first two colons. The third part may hold colons itself. -/
structure IsParted (s source output : String) (third : Option String) : Prop where
  eq : s = line source output third
  source : ':' ∉ source.toList
  output : ':' ∉ output.toList

def IsBlank (s : String) : Prop := s.toList.all Blank.isBlank = true

/-- A descriptor that a text of a command line can say. -/
structure FitsLine (d : Descriptor) : Prop where
  source_ne : d.source ≠ ""
  output_ne : d.output ≠ ""
  source : ':' ∉ d.source.toList
  output : ':' ∉ d.output.toList
  command : ∀ c, d.command = some c → ¬IsBlank c
  timeout : d.timeout = none

variable {s source output : String} {third : Option String} {d : Descriptor}

theorem text_eq_line (d : Descriptor) : d.text = line d.source d.output d.command := rfl

theorem not_isBlank_of_colon (h : ':' ∈ s.toList) : ¬IsBlank s := by
  intro hblank
  have hcolon : Blank.isBlank ':' = true := List.all_eq_true.mp hblank ':' h
  exact absurd hcolon (by decide)

theorem commandOf_of_isBlank (h : IsBlank s) : commandOf s.toList = none := if_pos h

theorem commandOf_of_not_isBlank (h : ¬IsBlank s) : commandOf s.toList = some s :=
  (if_neg h).trans (congrArg some String.ofList_toList)

theorem cut?_colon (s t : String) (hs : ':' ∉ s.toList) :
    Find.cut? [':'] (s ++ ":" ++ t).toList = some (s.toList, t.toList) := by
  refine (Find.cut?_singleton_eq_some_iff ':' _ _ _).mpr ⟨?_, hs⟩
  simp

theorem cut?_of_colonless (h : ':' ∉ s.toList) : Find.cut? [':'] s.toList = none := by
  refine (Find.cut?_eq_none_iff [':'] s.toList).mpr fun hinfix => ?_
  exact h ((List.singleton_infix_iff ':' s.toList).mp hinfix)

theorem line_some (source output c : String) : line source output (some c) = source ++ ":" ++ (output ++ ":" ++ c) := by
  simp only [line, String.append_assoc]

theorem line_none (source output : String) : line source output none = source ++ ":" ++ output := String.append_empty

theorem parse_of_colonless (h : ':' ∉ s.toList) : ∃ e, parse s.toList = .error e := by
  rw [parse]
  split
  · exact ⟨_, rfl⟩
  · rw [cut?_of_colonless h]
    exact ⟨_, rfl⟩

theorem IsParted.parse_eq (h : IsParted s source output third) : parse s.toList =
    if source = "" then .error .emptySource
    else if output = "" then .error .emptyOutput
    else .ok ⟨source, output, third.bind fun c => commandOf c.toList, none⟩ := by
  obtain ⟨rfl, hs, ho⟩ := h
  have hwords : ¬(line source output third).toList.all Blank.isBlank = true :=
    not_isBlank_of_colon (by simp [line])
  rw [parse, if_neg hwords]
  cases third with
  | none =>
    rw [line_none, cut?_colon source output hs]
    dsimp only
    rw [cut?_of_colonless ho]
    simp
  | some c =>
    rw [line_some, cut?_colon source _ hs]
    dsimp only
    rw [cut?_colon output c ho]
    simp

theorem exists_isParted (h : ':' ∈ s.toList) : ∃ source output third, IsParted s source output third := by
  obtain ⟨source, rest, hs, hsource⟩ := List.eq_append_cons_of_mem h
  have heq : s = String.ofList source ++ ":" ++ String.ofList rest := String.toList_injective (by simp [hs])
  have hsource' : ':' ∉ (String.ofList source).toList := by rwa [String.toList_ofList]
  by_cases hrest : ':' ∈ rest
  · obtain ⟨output, c, rfl, houtput⟩ := List.eq_append_cons_of_mem hrest
    have houtput' : ':' ∉ (String.ofList output).toList := by rwa [String.toList_ofList]
    refine ⟨String.ofList source, String.ofList output, some (String.ofList c), ?_, hsource', houtput'⟩
    rw [heq, line_some]
    exact String.toList_injective (by simp)
  · have houtput : ':' ∉ (String.ofList rest).toList := by rwa [String.toList_ofList]
    exact ⟨String.ofList source, String.ofList rest, none, heq.trans (line_none _ _).symm, hsource', houtput⟩

theorem parse_ok_iff_isParted : parse s.toList = .ok d ↔ ∃ third, IsParted s d.source d.output third ∧ d.source ≠ "" ∧
    d.output ≠ "" ∧ d.command = (third.bind fun c => commandOf c.toList) ∧ d.timeout = none := by
  constructor
  · intro h
    by_cases hcolon : ':' ∈ s.toList
    · obtain ⟨source, output, third, hparted⟩ := exists_isParted hcolon
      rw [hparted.parse_eq] at h
      split at h
      · cases h
      · next hsource =>
        split at h
        · cases h
        · next houtput =>
          cases h
          exact ⟨third, hparted, hsource, houtput, rfl, rfl⟩
    · obtain ⟨e, he⟩ := parse_of_colonless hcolon
      cases he.symm.trans h
  · rintro ⟨third, hparted, hsource, houtput, hcommand, htimeout⟩
    rw [hparted.parse_eq, if_neg hsource, if_neg houtput, ← hcommand, ← htimeout]

theorem FitsLine.isParted (h : FitsLine d) : IsParted d.text d.source d.output d.command :=
  ⟨text_eq_line d, h.source, h.output⟩

theorem FitsLine.parse_text (h : FitsLine d) : parse d.text.toList = .ok d := by
  have hcommand : d.command = d.command.bind fun c => commandOf c.toList := by
    cases hc : d.command with
    | none => rfl
    | some c => exact (commandOf_of_not_isBlank (h.command c hc)).symm
  exact parse_ok_iff_isParted.mpr ⟨d.command, h.isParted, h.source_ne, h.output_ne, hcommand, h.timeout⟩

theorem fitsLine_of_parse (h : parse s.toList = .ok d) : FitsLine d := by
  obtain ⟨third, hparted, hsource, houtput, hcommand, htimeout⟩ := parse_ok_iff_isParted.mp h
  refine ⟨hsource, houtput, hparted.source, hparted.output, fun c hc hblank => ?_, htimeout⟩
  rw [hcommand, Option.bind_eq_some_iff] at hc
  obtain ⟨t, -, ht⟩ := hc
  by_cases htblank : IsBlank t
  · cases (commandOf_of_isBlank htblank).symm.trans ht
  · cases (commandOf_of_not_isBlank htblank).symm.trans ht
    exact htblank hblank

/-- A text describes a template exactly if neither the part in front of its first colon nor the one between that and
the next colon, or the end, is empty. What is read is written as a text that is read as the same, and which is the text
itself, with all colons of the command, unless there was a third part of blanks. That is left out. -/
theorem line_is_read_and_written (s : String) :
    ((∃ d, parse s.toList = .ok d) ↔
        ∃ source output third, IsParted s source output third ∧ source ≠ "" ∧ output ≠ "") ∧
      ∀ d, parse s.toList = .ok d → parse d.text.toList = .ok d ∧
        ∃ third, IsParted s d.source d.output third ∧
          ((∀ c, third = some c → ¬IsBlank c) → d.command = third ∧ d.text = s) ∧
          ∀ c, third = some c → IsBlank c → d.command = none ∧ s = d.text ++ ":" ++ c := by
  refine ⟨⟨?_, ?_⟩, fun d hd => ⟨(fitsLine_of_parse hd).parse_text, ?_⟩⟩
  · rintro ⟨d, hd⟩
    obtain ⟨third, hparted, hsource, houtput, -⟩ := parse_ok_iff_isParted.mp hd
    exact ⟨d.source, d.output, third, hparted, hsource, houtput⟩
  · rintro ⟨source, output, third, hparted, hsource, houtput⟩
    rw [hparted.parse_eq, if_neg hsource, if_neg houtput]
    exact ⟨_, rfl⟩
  · obtain ⟨third, hparted, -, -, hcommand, -⟩ := parse_ok_iff_isParted.mp hd
    refine ⟨third, hparted, fun hwords => ?_, ?_⟩
    · have hthird : d.command = third := by
        cases third with
        | none => exact hcommand
        | some c => exact hcommand.trans (commandOf_of_not_isBlank (hwords c rfl))
      refine ⟨hthird, ?_⟩
      rw [text_eq_line, hthird]
      exact hparted.eq.symm
    · rintro c rfl hblank
      have hnone : d.command = none := hcommand.trans (commandOf_of_isBlank hblank)
      refine ⟨hnone, ?_⟩
      rw [text_eq_line, hnone, line_none, hparted.eq, line_some]
      simp only [String.append_assoc]

end Stencil.Settings.Descriptor
