import Stencil.Proofs.Filesystem.FirstWrite
import Stencil.Proofs.Filesystem.Replacement

set_option autoImplicit false
set_option relaxedAutoImplicit false

/-!
Paths at which a text that was written is read again. Main statement: so it is unless the path makes a detour by the
link that it ends at, or leads to a device once its directories have been made.
-/

namespace Stencil.Filesystem

namespace View

variable {v w : View} {path : String} {content : List UInt8}

theorem exists?_of_reaches {p : Place} {e : Entry} (h : v.Reaches true path (.entry p e)) :
    v.exists? path = true := by
  rw [exists?, entry_eq_ok_iff.mpr h]
  rfl

theorem eq_file_of_reaches {p : Place} {e : Entry} (h : v.Reaches true path (.entry p e))
    (hplain : v.isFile path = true ∨ v.isDirectory path = true) (hdir : e ≠ .directory) :
    ∃ mode bytes, e = .file mode bytes := by
  rw [isFile, isDirectory, entry_eq_ok_iff.mpr h] at hplain
  cases e with
  | file mode bytes => exact ⟨mode, bytes, rfl⟩
  | directory => exact absurd rfl hdir
  | link | sink => exact absurd hplain (by simp)

/-- What was written anew stands where the path leads, in place of no directory; or a device or a link took it. -/
theorem write_cases (h : v.write path content = .ok w) :
    (∃ p mode, w.Reaches true path (.entry p (.file mode content)) ∧ SameBut p v w ∧
        v.tree.get? p ≠ some .directory) ∨
      w = v ∧ ∃ p e, v.Reaches true path (.entry p e) ∧ e ≠ .directory ∧ ∀ mode bytes, e ≠ .file mode bytes := by
  rw [write, openForWriting] at h
  split at h
  · cases h
  · next p e hdir hp =>
    cases e with
    | directory => exact absurd rfl hdir
    | file mode bytes =>
      cases h
      have hold : v.tree.get? p ≠ some .directory := by
        rw [show v.tree.get? p = _ from Reaches.found_in hp]
        simp
      have hbut : SameBut p v { v with tree := v.tree.set p (.file mode content) } :=
        ⟨rfl, fun q hq => Tree.get?_set_ne _ _ hq⟩
      have hset := Tree.get?_set_self v.tree (.file mode content) (Tree.ne_nil_of_get? hold)
      exact .inl ⟨p, mode, Reaches.rewritten hp (Entry.isPlain_file _ _) hbut hset (Entry.isPlain_file _ _), hbut, hold⟩
    | link | sink =>
      cases h
      exact .inr ⟨rfl, p, _, hp, by simp, by simp⟩
  · next p hp =>
    cases h
    have hfree : v.tree.get? p = none := Reaches.found_in hp
    have hbut : SameBut p v { v with tree := v.tree.set p (.file 0o644 content) } :=
      ⟨rfl, fun q hq => Tree.get?_set_ne _ _ hq⟩
    have hset := Tree.get?_set_self v.tree (.file 0o644 content) (Tree.ne_nil_of_free hfree)
    have hreach := Reaches.created hp (hbut.extends hfree) hset (Entry.isPlain_file _ _) fun h => h
    exact .inl ⟨p, _, hreach, hbut, by simp [hfree]⟩
  · cases h
  · split at h <;> cases h

theorem reaches_of_write (hplain : v.exists? path = true → v.isFile path = true ∨ v.isDirectory path = true)
    (h : v.write path content = .ok w) : ∃ p mode, w.Reaches true path (.entry p (.file mode content)) := by
  rcases write_cases h with ⟨p, mode, hp, -⟩ | ⟨-, p, e, hp, hdir, hfile⟩
  · exact ⟨p, mode, hp⟩
  · obtain ⟨mode, bytes, he⟩ := eq_file_of_reaches hp (hplain (exists?_of_reaches hp)) hdir
    exact absurd he (hfile mode bytes)

theorem working_of_write (h : v.write path content = .ok w) : w.working = v.working := by
  rcases write_cases h with ⟨p, mode, -, hbut, -⟩ | ⟨rfl, -⟩
  · exact hbut.working
  · rfl

theorem keeps_directories_of_write (h : v.write path content = .ok w) (q : Place)
    (hq : v.tree.get? q = some .directory) : w.tree.get? q = some .directory := by
  rcases write_cases h with ⟨p, mode, -, hbut, hold⟩ | ⟨rfl, -⟩
  · have hne : q ≠ p := by
      rintro rfl
      exact hold hq
    exact (hbut.get? q hne).trans hq
  · exact hq

end View

namespace AtomicWrite

open Stencil.Text View

variable {v : View} {path : String}

/-- A path at which a text can be read once it was written: it makes no detour by the link that it ends at, and does
not come to lead to a device when its directories are made. -/
structure Straight (v : View) (path : String) : Prop where
  there : v.exists? path = true → ∀ p e, v.Reaches false path (.entry p e) → ¬v.Detours path p
  missing : v.exists? path = false → ∀ w ∈ approaches v path, w.exists? path = true →
    w.isFile path = true ∨ w.isDirectory path = true

theorem straight_of_reaches {q : Place} {f : Entry} (hq : v.Reaches true path (.entry q f)) (hf : f.IsPlain) :
    Straight v path where
  there _ _ _ hp := hq.not_detours hf hp
  missing hmissing := absurd (exists?_of_reaches hq) (by simp [hmissing])

theorem straight_of_readText {s : String} (h : v.readText path = .ok s) : Straight v path := by
  obtain ⟨q, f, bytes, hq, hc, -⟩ := readText_eq_ok_iff.mp h
  exact straight_of_reaches hq (isPlain_of_contentOf? hc)

theorem straight_of_missing (h : ∀ w ∈ approaches v path, w.exists? path = false) : Straight v path where
  there hthere := absurd hthere (by simp [h v List.mem_cons_self])
  missing _ w hw hthere := absurd hthere (by simp [h w hw])

theorem view_of_direct {content : List UInt8} {fails : Outage}
    (h : (run fails v (directPlan path content)).failure? = none) :
    ∃ w ∈ approaches v path, ∃ u, w.write path [] = .ok u ∧
      u.write path content = .ok (run fails v (directPlan path content)).view := by
  obtain ⟨w, hw, hcreate⟩ := attempt_of_done h
  obtain ⟨u, hu, hfill⟩ := attempt_of_done hcreate
  obtain ⟨x, hx, -⟩ := attempt_of_done hfill
  have hview : (run fails v (directPlan path content)).view = x := by
    rw [directPlan, view_of_ok _ hw, view_of_ok _ hu, view_of_ok _ hx]
    rfl
  rw [hview]
  exact ⟨w, mem_approaches_of_makeDirectories (attempt_eq_ok_iff.mp hw).2, u, (attempt_eq_ok_iff.mp hu).2,
    (attempt_eq_ok_iff.mp hx).2⟩

theorem Straight.reaches_of_done (h : Straight v path) (faults : Faults) (text : String)
    (hdone : (write faults v path text).failure? = none) :
    (write faults v path text).view.working = v.working ∧ ∃ p mode,
      (write faults v path text).view.Reaches true path (.entry p (.file mode (Utf8.encode text))) := by
  by_cases hthere : v.exists? path = true
  · obtain ⟨q, f, hq⟩ := exists_reaches hthere
    obtain ⟨p, e, hp⟩ := hq.unfollowed
    obtain ⟨he, hw⟩ := (write_spec hthere hp faults text).1 hdone
    have hentry := (hw.renewed hp he).entry (h.there hthere p e hp)
    exact ⟨hw.sameBut.working, p, sharedMode, entry_eq_ok_iff.mp hentry⟩
  · have hmissing : v.exists? path = false := Bool.not_eq_true _ ▸ hthere
    rw [write_of_missing hmissing] at hdone ⊢
    obtain ⟨w, hw, u, hu, hx⟩ := view_of_direct hdone
    obtain ⟨p, mode, hp⟩ := reaches_of_write (h.missing hmissing w hw) hu
    have hfile : u.isFile path = true := isFile_eq_true_iff.mpr ⟨p, mode, _, hp⟩
    refine ⟨?_, reaches_of_write (fun _ => .inl hfile) hx⟩
    exact (working_of_write hx).trans ((working_of_write hu).trans (extends_of_mem_approaches hw).working)

theorem Straight.write_done (h : Straight v path) (faults : Faults) (text : String)
    (hdone : (write faults v path text).failure? = none) :
    (write faults v path text).view.working = v.working ∧
      (write faults v path text).view.readText path = .ok text := by
  obtain ⟨hworking, p, mode, hp⟩ := h.reaches_of_done faults text hdone
  exact ⟨hworking, readText_eq_ok_iff.mpr ⟨p, _, _, hp, rfl, Utf8.decode?_encode text⟩⟩

end AtomicWrite

end Stencil.Filesystem
