import Mathlib.Data.List.Forall2
import Stencil.Proofs.Text.Blank
import Stencil.Proofs.Text.Lines
import Stencil.Upkeep.Output

set_option autoImplicit false
set_option relaxedAutoImplicit false

/-!
The lines that are noted of what a command writes. Main statement: they are the lines of the whole output, read as text
at once, however its bytes come in pieces.
-/

namespace Stencil.Upkeep.Output

open Stencil.Text

/-- What is kept of the bytes that came so far: the lines that ended among them, and what stands behind the last end. -/
structure Reading.Holds (r : Reading) (came : List UInt8) : Prop where
  came_eq : came = r.lines.reverse.flatten ++ r.rest.reverse
  ended : ∀ l ∈ r.lines, ∃ a, lineEnd ∉ a ∧ l = a ++ [lineEnd]
  unended : lineEnd ∉ r.rest

theorem Reading.start_holds : start.Holds [] where
  came_eq := rfl
  ended := nofun
  unended := List.not_mem_nil

theorem Reading.Holds.byte {r : Reading} {came : List UInt8} (h : r.Holds came) (b : UInt8) :
    (r.byte b).Holds (came ++ [b]) := by
  unfold Reading.byte
  split
  case isTrue hb =>
    have hline : (b :: r.rest).reverse = r.rest.reverse ++ [lineEnd] := by rw [List.reverse_cons, hb]
    refine ⟨?_, ?_, List.not_mem_nil⟩
    · rw [h.came_eq, hline, hb]
      simp
    · intro l hl
      rcases List.mem_cons.mp hl with rfl | hl
      · exact ⟨r.rest.reverse, mt List.mem_reverse.mp h.unended, hline⟩
      · exact h.ended l hl
  case isFalse hb =>
    refine ⟨?_, h.ended, ?_⟩
    · rw [h.came_eq]
      simp
    · rw [List.mem_cons, not_or]
      exact ⟨Ne.symm hb, h.unended⟩

theorem Reading.Holds.piece {r : Reading} {came : List UInt8} (h : r.Holds came) (bytes : List UInt8) :
    (r.piece bytes).Holds (came ++ bytes) := by
  unfold Reading.piece
  induction bytes generalizing r came with
  | nil =>
    rw [List.append_nil]
    exact h
  | cons b bytes ih =>
    have hnext := ih (h.byte b)
    rwa [List.append_assoc, List.singleton_append] at hnext

theorem Reading.Holds.pieces {r : Reading} {came : List UInt8} (h : r.Holds came) (pieces : List (List UInt8)) :
    (pieces.foldl Reading.piece r).Holds (came ++ pieces.flatten) := by
  induction pieces generalizing r came with
  | nil =>
    rw [List.flatten_nil, List.append_nil]
    exact h
  | cons bytes pieces ih =>
    have hnext := ih (h.piece bytes)
    rwa [List.append_assoc, ← List.flatten_cons] at hnext

theorem Reading.Holds.finish {r : Reading} {came : List UInt8} (h : r.Holds came) : AreLines lineEnd came r.finish := by
  have hended : ∀ l ∈ r.lines.reverse, ∃ a, lineEnd ∉ a ∧ l = a ++ [lineEnd] :=
    fun l hl => h.ended l (List.mem_reverse.mp hl)
  rw [h.came_eq]
  unfold Reading.finish
  split
  case isTrue hempty =>
    have hlines := AreLines.append hended AreLines.nil
    rw [List.append_nil r.lines.reverse] at hlines
    rw [List.isEmpty_iff.mp hempty]
    exact hlines
  case isFalse hfilled =>
    have hrest : r.rest.reverse ≠ [] := by simpa using hfilled
    rw [List.reverse_cons]
    exact AreLines.append hended (.rest hrest (mt List.mem_reverse.mp h.unended))

/-- What is noted of an output are the lines of the text that its bytes are read as, all at once: every one of them, in
order, without the blanks at its end. The pieces that the bytes come in leave no trace. -/
theorem logged_are_lines_of_whole (pieces : List (List UInt8)) :
    ∃ lines : List (List Char),
      (∀ ls, AreLines '\n' (Utf8.decodeLossy pieces.flatten).toList ls ↔ ls = lines) ∧
      ∀ texts, logged pieces = texts ↔ List.Forall₂ (fun l t => Blank.TrimsEnd l t.toList) lines texts := by
  let read := pieces.foldl Reading.piece Reading.start
  have hread : read.Holds pieces.flatten := Reading.start_holds.pieces pieces
  have hlines : AreLines '\n' (Utf8.decodeLossy pieces.flatten).toList
      (read.finish.map fun l => (Utf8.decodeLossy l).toList) := hread.finish.decodeLossy
  refine ⟨_, fun ls => ⟨fun h => h.unique hlines, ?_⟩, ?_⟩
  · rintro rfl
    exact hlines
  · intro texts
    have hlogged : logged pieces = (read.finish.map fun l => (Utf8.decodeLossy l).toList).map fun l =>
        String.ofList (Blank.trimEnd l) := by
      rw [List.map_map]
      rfl
    have hnoted (l : List Char) (t : String) : String.ofList (Blank.trimEnd l) = t ↔ Blank.TrimsEnd l t.toList := by
      rw [← Blank.trimEnd_eq_iff, ← String.toList_inj, String.toList_ofList]
    rw [hlogged, ← List.forall₂_eq_eq_eq, List.forall₂_map_left_iff]
    simp only [hnoted]

end Stencil.Upkeep.Output
