import Stencil.Proofs.Shell.Word
import Stencil.Proofs.Upkeep.Schedule

set_option autoImplicit false
set_option relaxedAutoImplicit false

/-!
A command that names something that is there, in the form in which it is run. Main statement: the form leads to what
the command names, from any directory, and it is one word to a shell, which then runs what is there, exactly when each
name on the way is a word.
-/

namespace Stencil.Upkeep.Schedule

open Stencil.Filesystem Stencil.Shell

variable {v : View} {command : String} {p : Place} {e : Entry}

theorem normalize_normalize (hv : v.Sound) (command : String) :
    normalize v (normalize v command) = normalize v command := by
  cases hentry : v.entry command with
  | error f =>
    have hsame : normalize v command = command :=
      normalize_of_not_reaches fun p e h => by cases hentry.symm.trans (View.entry_eq_ok_iff.mpr h)
    rw [hsame]
    exact hsame
  | ok m =>
    obtain ⟨p, e⟩ := m
    have hreaches : v.Reaches true command (.entry p e) := View.entry_eq_ok_iff.mp hentry
    have hform := normalize_of_reaches hreaches
    by_cases hlong : pathLimit ≤ (pathOf p).utf8ByteSize
    · rw [if_pos hlong] at hform
      rw [hform]
      exact hform
    · rw [if_neg hlong] at hform
      have hagain := View.reaches_pathOf (hv.stands hreaches) (Nat.not_le.mp hlong)
      rw [hform, normalize_of_reaches hagain, if_neg hlong]

theorem isWord_pathOf_iff (h : ∀ n ∈ p, IsWritten n) : IsWord (pathOf p) ↔ ∀ n ∈ p, IsWord n := by
  rcases eq_or_ne p [] with rfl | hp
  · have hroot : IsWord (pathOf []) := by decide
    exact iff_of_true hroot (List.forall_mem_nil _)
  constructor
  · intro hword n hn
    refine ⟨(h n hn).ne_empty, fun c hc => ?_⟩
    exact hword.plain c ((mem_pathOf_iff hp c).mpr (.inr ⟨n, hn, hc⟩))
  · intro hwords
    refine ⟨fun hempty => ?_, fun c hc => ?_⟩
    · have habsolute := isAbsolute_pathOf p
      rw [hempty] at habsolute
      cases habsolute
    · rcases (mem_pathOf_iff hp c).mp hc with rfl | ⟨n, hn, hc⟩
      · decide
      · exact (hwords n hn).plain c hc

/-- The form in which a command is run leads to what the command names, and so the same program is found at it. If the
path without links and relative parts is not too long, the form is one word to a shell exactly if the names on the way
are, and then it is run; a command from the root that is one word is run in the same way. -/
theorem runs_what_command_names (hv : v.Sound) (h : v.entry command = .ok (p, e)) :
    v.entry (normalize v command) = .ok (p, e) ∧
      Executable.atPath v (normalize v command) = Executable.atPath v command ∧
      (pathLimit ≤ (pathOf p).utf8ByteSize → normalize v command = command) ∧
      ((pathOf p).utf8ByteSize < pathLimit →
        (∀ w : View, w.tree = v.tree → w.entry (normalize v command) = .ok (p, e)) ∧
        (IsWord (normalize v command) ↔ ∀ n ∈ p, IsWord n) ∧
        (IsWord (normalize v command) → RunsPath (normalize v command))) ∧
      (IsWord command → Path.isAbsolute command = true → RunsPath command) := by
  have hreaches : v.Reaches true command (.entry p e) := View.entry_eq_ok_iff.mp h
  have hwritten : ∀ n ∈ p, IsWritten n := fun n hn => ((hv.stands hreaches).names n hn).toIsWritten
  have hlong (hsize : pathLimit ≤ (pathOf p).utf8ByteSize) : normalize v command = command := by
    rw [normalize_of_reaches hreaches, if_pos hsize]
  have hshort (hsize : (pathOf p).utf8ByteSize < pathLimit) : normalize v command = pathOf p := by
    rw [normalize_of_reaches hreaches, if_neg (Nat.not_le.mpr hsize)]
  have hanywhere (hsize : (pathOf p).utf8ByteSize < pathLimit) (w : View) (hw : w.tree = v.tree) :
      w.entry (normalize v command) = .ok (p, e) := by
    have hcanonical : v.canonical command = .ok (pathOf p) := by
      rw [View.canonical_of_reaches hreaches, if_neg (Nat.not_le.mpr hsize)]
    rw [hshort hsize, View.entry_eq_ok_iff]
    exact (hv.reaches_canonical hreaches hcanonical w hw).2
  have hentry : v.entry (normalize v command) = .ok (p, e) := by
    rcases Nat.lt_or_ge (pathOf p).utf8ByteSize pathLimit with hsize | hsize
    · exact hanywhere hsize v rfl
    · rw [hlong hsize]
      exact h
  refine ⟨hentry, ?_, hlong, fun hsize => ⟨hanywhere hsize, ?_, ?_⟩, ?_⟩
  · rw [Executable.atPath, Executable.atPath, hentry, h]
  · rw [hshort hsize]
    exact isWord_pathOf_iff hwritten
  · rw [hshort hsize]
    intro hword
    exact runsPath_of_isWord hword (isAbsolute_pathOf p) hsize
  · intro hword habsolute
    exact runsPath_of_isWord hword habsolute hreaches.short

/-- A directory with a program in it, and a link to the directory. -/
def linked (directory : String) : View :=
  ⟨⟨[([directory], .directory), ([directory, "r"], .file 0o755 []), (["l"], .link directory)]⟩, []⟩

theorem sound_linked {directory : String} (h : '\x00' ∉ directory.toList) : (linked directory).Sound where
  working := .root _
  names := nofun
  links q target hq := by
    have hne : q ≠ [] := Tree.ne_nil_of_get? (t := (linked directory).tree) (by simp [hq])
    have hmem : (q, Entry.link target) ∈ (linked directory).tree.entries := Tree.mem_entries_of_get? hne hq
    simp only [linked, List.mem_cons, Prod.mk.injEq, reduceCtorEq, and_false, Entry.link.injEq, List.not_mem_nil,
      or_false, false_or] at hmem
    rwa [hmem.2]

theorem linked_program_runs :
    (linked "d").Sound ∧ (linked "d").entry "l/../l/r" = .ok (["d", "r"], .file 0o755 []) ∧
      normalize (linked "d") "l/../l/r" = "/d/r" ∧ RunsPath "/d/r" := by
  have hsound : (linked "d").Sound := sound_linked (by decide)
  have hentry : (linked "d").entry "l/../l/r" = .ok (["d", "r"], .file 0o755 []) := by decide +kernel
  have hnormal : normalize (linked "d") "l/../l/r" = "/d/r" := by decide +kernel
  obtain ⟨-, -, -, hshort, -⟩ := runs_what_command_names hsound hentry
  obtain ⟨-, -, hruns⟩ := hshort (by decide)
  rw [hnormal] at hruns
  exact ⟨hsound, hentry, hnormal, hruns (by decide)⟩

set_option maxRecDepth 4000 in
/-- The path of a program in a directory with a blank in its name is two words: a shell looks for another program. -/
theorem linked_program_need_not_run :
    (linked "a b").Sound ∧ IsWord "l/r" ∧ (linked "a b").entry "l/r" = .ok (["a b", "r"], .file 0o755 []) ∧
      normalize (linked "a b") "l/r" = "/a b/r" ∧ ¬ IsWord "/a b/r" ∧
      (parse 0 (octets "/a b/r")).1 = [.simple 1 [] [(octets "/a").map .plain, (octets "b/r").map .plain] []] ∧
      Executable.atPath (linked "a b") "/a" = .missing := by
  refine ⟨sound_linked (by decide), by decide, by decide, by decide, by decide, rfl, rfl⟩

end Stencil.Upkeep.Schedule
