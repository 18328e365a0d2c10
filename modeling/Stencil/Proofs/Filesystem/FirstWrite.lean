import Stencil.Proofs.Filesystem.Staged
import Stencil.Proofs.Filesystem.Steps
import Stencil.Proofs.Text.Utf8

set_option autoImplicit false
set_option relaxedAutoImplicit false

/-!
Writing a file that is not there. Its directories are made, and then it is written where it stands, so that others
see it grow. Main statement: at all times the path leads nowhere or reads as a beginning of the content; every
beginning is there to be seen, the empty one included, and where writing stops halfway its beginning stays.
-/

namespace Stencil.Filesystem

namespace View

variable {v w u : View} {path : String}

theorem extends_of_makeDirectory (h : v.makeDirectory path = .ok w) : Extends v w := by
  rw [makeDirectory] at h
  split at h
  · next p d hp =>
    cases h
    have hfree : v.tree.get? p = none := Reaches.found_in hp
    exact SameBut.extends ⟨rfl, fun q hq => Tree.get?_set_ne _ _ hq⟩ hfree
  · cases h
  · cases h

theorem of_mem_directoriesMade {P : View → Prop}
    (hstep : ∀ {x y : View} {path : String}, P x → x.makeDirectory path = .ok y → P y) (hv : P v) (fuel : Nat)
    (h : u ∈ (v.directoriesMade fuel path).1) : P u := by
  induction fuel generalizing path u with
  | zero => exact absurd h List.not_mem_nil
  | succ fuel ih =>
    rw [directoriesMade] at h
    split at h
    · exact absurd h List.not_mem_nil
    · split at h
      · next hmade =>
        obtain rfl := List.mem_singleton.mp h
        exact hstep hv hmade
      · split at h
        · exact absurd h List.not_mem_nil
        · next parent _ =>
          have habove : ∀ x ∈ v :: (v.directoriesMade fuel parent).1, P x := by
            intro x hx
            rcases List.mem_cons.mp hx with rfl | hx
            · exact hv
            · exact ih hx
          split at h
          · next hd => exact habove u (by rw [hd]; exact List.mem_cons_of_mem _ h)
          · next made hd =>
            rw [hd] at habove
            dsimp only at h
            split at h
            · next x hx =>
              rcases List.mem_append.mp h with h | h
              · exact habove u (List.mem_cons_of_mem _ h)
              · obtain rfl := List.mem_singleton.mp h
                exact hstep (habove _ List.getLastD_mem_cons) hx
            · exact habove u (List.mem_cons_of_mem _ h)
      · exact absurd h List.not_mem_nil

end View

namespace AtomicWrite

open Stencil.Text

/-- The files before directories are made for a path, and after each that is made. -/
def approaches (v : View) (path : String) : List View := v :: directoriesFor path v

/-- Once its directories were made, the file was opened at a free place, and it holds a content. -/
def Growing (v : View) (path : String) (content : List UInt8) (u : View) : Prop :=
  ∃ w ∈ approaches v path, ∃ p, w.Reaches true path (.free p false) ∧ Staged w p sharedMode content u

section Growth

variable {v w u : View} {path : String} {content : List UInt8}

/-- What making one directory preserves holds of the files while the directories of a path are made. -/
theorem of_mem_approaches {P : View → Prop}
    (hstep : ∀ {x y : View} {path : String}, P x → x.makeDirectory path = .ok y → P y) (hv : P v)
    (h : u ∈ approaches v path) : P u := by
  rcases List.mem_cons.mp h with rfl | h
  · exact hv
  · exact View.of_mem_directoriesMade hstep hv _ h

theorem extends_of_mem_approaches (h : u ∈ approaches v path) : View.Extends v u :=
  of_mem_approaches (fun hx hy => hx.trans (View.extends_of_makeDirectory hy)) (.refl v) h

theorem mem_approaches_of_makeDirectories
    (h : v.makeDirectories ((directoryOf path).length + 1) (directoryOf path) = .ok w) :
    w ∈ approaches v path := by
  rw [View.makeDirectories] at h
  split at h
  · next made hmade =>
    cases h
    rw [approaches, directoriesFor, hmade]
    exact List.getLastD_mem_cons
  · cases h

theorem getLastD_take_mem_approaches (n : Nat) :
    ((directoriesFor path v).take n).getLastD v ∈ approaches v path := by
  have hlast : ((directoriesFor path v).take n).getLastD v ∈ v :: (directoriesFor path v).take n :=
    List.getLastD_mem_cons
  rcases List.mem_cons.mp hlast with h | h
  · rw [h]
    exact List.mem_cons_self
  · exact List.mem_cons_of_mem _ (List.mem_of_mem_take h)

theorem growing_of_write (hw : w ∈ approaches v path) (hmissing : w.exists? path = false)
    (h : w.write path content = .ok u) : Growing v path content u := by
  have hnone : ∀ p e, resolve w.tree w.working true path ≠ .ok (.entry p e) := by
    intro p e he
    rw [View.exists?, View.entry_eq_ok_iff.mpr he] at hmissing
    cases hmissing
  rw [View.write, View.openForWriting] at h
  split at h
  · next he => exact absurd he (hnone _ _)
  · next he => exact absurd he (hnone _ _)
  · next p hp =>
    cases h
    have hfree : w.tree.get? p = none := View.Reaches.found_in hp
    exact ⟨w, hw, p, hp, hfree, ⟨rfl, fun q hq => Tree.get?_set_ne _ _ hq⟩,
      Tree.get?_set_self _ _ (Tree.ne_nil_of_free hfree)⟩
  · cases h
  · split at h <;> cases h

theorem Growing.write (h : Growing v path content w) (bytes : List UInt8) :
    ∃ u, w.write path bytes = .ok u ∧ Growing v path bytes u := by
  obtain ⟨x, hx, p, hp, hs⟩ := h
  exact ⟨_, hs.write hp bytes, x, hx, p, hp, hs.set sharedMode bytes⟩

theorem Growing.writeSome (h : Growing v path content w) (bytes : List UInt8) (n : Nat) :
    Growing v path (bytes.take n) (writeSome path bytes n w) := by
  obtain ⟨u, hu, hg⟩ := h.write (bytes.take n)
  rw [AtomicWrite.writeSome, hu]
  exact hg

theorem Growing.extends (h : Growing v path content u) : View.Extends v u := by
  obtain ⟨w, hw, p, -, hs⟩ := h
  exact (extends_of_mem_approaches hw).trans hs.extends

theorem Growing.readBytes (h : Growing v path content u) : u.readBytes path = .ok content := by
  obtain ⟨w, -, p, hp, hs⟩ := h
  exact View.readBytes_eq_ok_iff.mpr ⟨p, _, hs.reaches hp fun h => h, rfl⟩

end Growth

/-- What is seen of a first write: its directories on the way, or the file with a beginning of its content. -/
def Beginning (v : View) (path : String) (content : List UInt8) (u : View) : Prop :=
  u ∈ approaches v path ∨ ∃ n, Growing v path (content.take n) u

theorem chain_directPlan {v : View} {path : String} (hmissing : ∀ w ∈ approaches v path, w.exists? path = false)
    (content : List UInt8) :
    Chain (Beginning v path content) (Beginning v path content) (· = v) (directPlan path content)
      (Growing v path content) := by
  have hempty : ∀ {u}, Growing v path [] u → Beginning v path content u := fun h => .inr ⟨0, h⟩
  refine .cons (· ∈ approaches v path) ⟨?_, ?_, ?_⟩ <|
    .cons (Growing v path []) ⟨.inl, fun hw h => growing_of_write hw (hmissing _ hw) h, ?_⟩ <|
    .cons (Growing v path content) ⟨hempty, ?_, ?_⟩ <|
    .nil fun _ h => .inr ⟨content.length, by rwa [List.take_length]⟩
  · rintro _ rfl
    exact .inl List.mem_cons_self
  · rintro _ w rfl hw
    exact mem_approaches_of_makeDirectories hw
  · rintro _ u rfl hu
    cases hu with
    | partway n => exact ⟨.inl (getLastD_take_mem_approaches n), .inl (getLastD_take_mem_approaches n)⟩
    | stuck => exact ⟨.inl List.getLastD_mem_cons, .inl List.getLastD_mem_cons⟩
  · rintro w u hw hu
    cases hu <;> exact ⟨.inl hw, .inl hw⟩
  · rintro w u hw hu
    obtain ⟨x, hx, hg⟩ := hw.write content
    cases hx.symm.trans hu
    exact hg
  · rintro w u hw hu
    cases hu with
    | partway n => exact ⟨.inr ⟨n, hw.writeSome content n⟩, .inr ⟨n, hw.writeSome content n⟩⟩
    | stuck => exact ⟨hempty hw, hempty hw⟩

theorem direct_of_done {v : View} {path : String} {content : List UInt8} {fails : Outage}
    (h : (run fails v (directPlan path content)).failure? = none) :
    ∃ w u x, v.makeDirectories ((directoryOf path).length + 1) (directoryOf path) = .ok w ∧
      w.write path [] = .ok u ∧ u.write path content = .ok x := by
  obtain ⟨w, hw, h⟩ := attempt_of_done h
  obtain ⟨u, hu, h⟩ := attempt_of_done h
  obtain ⟨x, hx, -⟩ := attempt_of_done h
  exact ⟨w, u, x, (attempt_eq_ok_iff.mp hw).2, (attempt_eq_ok_iff.mp hu).2, (attempt_eq_ok_iff.mp hx).2⟩

theorem direct_of_outage {v w u : View} {path : String} (content : List UInt8) {fails : Outage} {f : Fault}
    (hw : v.makeDirectories ((directoryOf path).length + 1) (directoryOf path) = .ok w)
    (hu : w.write path [] = .ok u) (hdirs : fails .makeDirectories = none) (hcreate : fails .create = none)
    (hfill : fails .fill = some f) :
    (run fails v (directPlan path content)).failure? = some ⟨path, f.error⟩ ∧
      (run fails v (directPlan path content)).view = writeSome path content f.progress u := by
  rw [directPlan, run_of_ok _ (attempt_eq_ok_iff.mpr ⟨hdirs, hw⟩),
    run_of_ok _ (attempt_eq_ok_iff.mpr ⟨hcreate, hu⟩), run_of_error _ (attempt_of_outage hfill)]
  exact ⟨rfl, rfl⟩

/-- While a file that is not there is written, its path leads nowhere or reads as a beginning of the content, and
nothing that was there is lost. If nothing stands in the way, every beginning is there to be seen, the whole is
read at the end, and where an outage ends the writing the beginning that it got to stays. -/
theorem first_write_shows_every_beginning (v : View) (path text : String)
    (hmissing : ∀ w ∈ approaches v path, w.exists? path = false) :
    (∀ faults u, SeenWhile faults v path text u → View.Extends v u ∧
        (u.exists? path = false ∨ ∃ n, u.readBytes path = .ok ((Utf8.encode text).take n))) ∧
      ((write noFaults v path text).failure? = none →
        (write noFaults v path text).view.readText path = .ok text ∧
        (∀ n, ∃ u, SeenWhile noFaults v path text u ∧
          u.readBytes path = .ok ((Utf8.encode text).take n)) ∧
        ∀ (faults : Faults) (f : Fault), faults 0 .makeDirectories = none → faults 0 .create = none →
          faults 0 .fill = some f →
            (write faults v path text).failure? = some ⟨path, f.error⟩ ∧
              (write faults v path text).view.readBytes path = .ok ((Utf8.encode text).take f.progress)) := by
  have hthere : v.exists? path = false := hmissing v List.mem_cons_self
  have hplan : plan v path text = directPlan path (Utf8.encode text) := by
    rw [plan, if_neg (by simp [hthere])]
  have hchain := chain_directPlan hmissing (Utf8.encode text)
  refine ⟨fun faults u hu => ?_, fun hdone => ?_⟩
  · rw [SeenWhile, hplan] at hu
    rcases hchain.seen_spec (fun _ h => h) rfl hu with hu | ⟨n, hu⟩
    · exact ⟨extends_of_mem_approaches hu, .inl (hmissing u hu)⟩
    · exact ⟨hu.extends, .inr ⟨n, hu.readBytes⟩⟩
  · rw [write_eq_run, hplan] at hdone
    obtain ⟨w, u, x, hw, hu, hx⟩ := direct_of_done hdone
    have hempty : Growing v path [] u :=
      growing_of_write (mem_approaches_of_makeDirectories hw)
        (hmissing w (mem_approaches_of_makeDirectories hw)) hu
    refine ⟨?_, fun n => ?_, fun faults f hdirs hcreate hfill => ?_⟩
    · have hbytes := ((hchain.run_spec (noFaults 0) rfl).1 hdone).readBytes
      rw [write_eq_run, hplan, View.readText, hbytes]
      dsimp only
      rw [Utf8.decode?_encode]
    · refine ⟨_, ?_, (hempty.writeSome (Utf8.encode text) n).readBytes⟩
      rw [SeenWhile, hplan]
      exact .later (attempt_eq_ok_iff.mpr ⟨rfl, hw⟩) (.later (attempt_eq_ok_iff.mpr ⟨rfl, hu⟩)
        (.during [] (.partway n)))
    · obtain ⟨hfailure, hview⟩ := direct_of_outage (Utf8.encode text) hw hu hdirs hcreate hfill
      rw [write_eq_run, hplan, hview]
      exact ⟨hfailure, (hempty.writeSome (Utf8.encode text) f.progress).readBytes⟩

/-- Where the disk is full after one byte, that byte stays. -/
theorem first_write_on_full_disk :
    let v : View := ⟨⟨[]⟩, []⟩
    let full : Faults := fun _ s => if s = .fill then some ⟨.resourceBusy, 1⟩ else none
    (write full v "/d/o" "new").failure? = some ⟨"/d/o", .resourceBusy⟩ ∧
      (write full v "/d/o" "new").view.readBytes "/d/o" = .ok [110] ∧
      (write noFaults v "/d/o" "new").view.readText "/d/o" = .ok "new" := by
  intro v full
  obtain ⟨-, hdone⟩ := first_write_shows_every_beginning v "/d/o" "new" (by decide +kernel)
  obtain ⟨hwhole, -, hstops⟩ := hdone (by decide +kernel)
  obtain ⟨hfailure, hstays⟩ := hstops full ⟨.resourceBusy, 1⟩ rfl rfl rfl
  exact ⟨hfailure, hstays.trans (by decide +kernel), hwhole⟩

/-- An empty file is there to be seen before its content is, and a path that only its own directory was missing
from leads somewhere after a failure. -/
theorem first_write_is_not_whole_or_nothing :
    let v : View := ⟨⟨[]⟩, []⟩
    let r := write noFaults v "x/.." "new"
    (v.exists? "/o" = false ∧ ∃ u, SeenWhile noFaults v "/o" "new" u ∧ u.readText "/o" = .ok "") ∧
      v.exists? "x/.." = false ∧ r.failure? = some ⟨"x/..", .isADirectory⟩ ∧ r.view.exists? "x/.." = true := by
  intro v r
  have hseen : (write noFaults v "/o" "new").after[1]? = some ⟨⟨[(["o"], .file 0o644 [])]⟩, []⟩ := by
    decide +kernel
  refine ⟨⟨by decide +kernel, ?_⟩, by decide +kernel, by decide +kernel, by decide +kernel⟩
  rw [write_eq_run] at hseen
  exact ⟨_, seen_of_mem_after _ _ _ (List.mem_of_getElem? hseen), by decide +kernel⟩

end AtomicWrite

end Stencil.Filesystem
