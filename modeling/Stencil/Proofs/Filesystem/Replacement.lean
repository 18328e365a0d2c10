import Stencil.Proofs.Filesystem.Staged
import Stencil.Proofs.Filesystem.Steps
import Stencil.Proofs.Text.Utf8

set_option autoImplicit false
set_option relaxedAutoImplicit false

/-!
Replacing a file by a new one that was written beside it. Each step of the plan takes the files from one state
to the next, or is interrupted and cleans up. Main statement: at all times everything that was there is still
there, or the new file stands at the place that the path named and no other place has changed; the latter is so
when the plan is through, and no place has changed when it fails.
-/

namespace Stencil.Filesystem.AtomicWrite

open Stencil.Text

variable {v w : View} {temporary path : String} {content : List UInt8} {p : Place} {e : Entry}

/-- A file of its own stands at the place of the temporary path, which was free. -/
def Beside (v : View) (temporary : String) (mode : Nat) (content : List UInt8) (w : View) : Prop :=
  ∃ q, v.Reaches false temporary (.free q false) ∧ Staged v q mode content w

theorem Beside.extends {mode : Nat} (h : Beside v temporary mode content w) : View.Extends v w := by
  obtain ⟨q, -, hs⟩ := h
  exact hs.extends

theorem Beside.discard {mode : Nat} (h : Beside v temporary mode content w) :
    View.Same v (discard temporary w) := by
  obtain ⟨q, ht, hs⟩ := h
  exact hs.discard ht

theorem Beside.writeSome {mode : Nat} (h : Beside v temporary mode content w) (bytes : List UInt8)
    (n : Nat) : Beside v temporary mode (bytes.take n) (writeSome temporary bytes n w) := by
  obtain ⟨q, ht, hs⟩ := h
  rw [AtomicWrite.writeSome, hs.write ht]
  exact ⟨q, ht, hs.set mode (bytes.take n)⟩

/-- What is seen of a replacement: all that was there still is, or the new file stands at its place. -/
def Whole (v : View) (p : Place) (e : Entry) (content : List UInt8) (u : View) : Prop :=
  View.Extends v u ∨ e ≠ .directory ∧ Rewritten v p sharedMode content u

/-- A step that starts with the temporary file, leaves it alone when it is interrupted, and then removes it. -/
theorem keeps_beside {s : PlannedStep} {mode : Nat} {bytes : List UInt8} {after : View → Prop}
    (hpartway : s.partway = fun _ v => v) (hstuck : s.stuck = id)
    (hclean : s.cleanUp = AtomicWrite.discard temporary)
    (hact : ∀ {w w' : View}, Beside v temporary mode bytes w → s.act w = .ok w' → after w') :
    s.Keeps (Whole v p e content) (View.Same v) (Beside v temporary mode bytes) after where
  shows h := .inl h.extends
  onward := hact
  interrupted h hu := by
    rw [hclean]
    cases hu with
    | partway n =>
      rw [hpartway]
      exact ⟨.inl h.extends, h.discard⟩
    | stuck =>
      rw [hstuck]
      exact ⟨.inl h.extends, h.discard⟩

theorem chain_replacingPlan (hp : v.Reaches false path (.entry p e)) (temporary : String)
    (content : List UInt8) :
    Chain (Whole v p e content) (View.Same v) (· = v) (replacingPlan temporary path content)
      (fun w => e ≠ .directory ∧ Rewritten v p sharedMode content w) := by
  refine .cons (Beside v temporary privateMode []) ?_ <|
    .cons (Beside v temporary privateMode content) ?_ <|
    .cons (Beside v temporary privateMode content) (keeps_beside rfl rfl rfl fun h hw => ?_) <|
    .cons (Beside v temporary privateMode content) (keeps_beside rfl rfl rfl fun h hw => ?_) <|
    .cons (Beside v temporary sharedMode content) (keeps_beside rfl rfl rfl fun h hw => ?_) <|
    .cons _ (keeps_beside rfl rfl rfl fun h hw => ?_) <|
    .nil fun _ hw => .inr hw
  · refine ⟨?_, ?_, ?_⟩
    · rintro _ rfl
      exact .inl (.refl _)
    · rintro _ w rfl hw
      exact staged_of_createNew hw
    · rintro _ u rfl hu
      cases hu <;> exact ⟨.inl (.refl _), .refl _⟩
  · refine ⟨fun h => .inl h.extends, fun h hw => ?_, fun h hu => ?_⟩
    · obtain ⟨q, ht, hs⟩ := h
      cases (hs.write ht content).symm.trans hw
      exact ⟨q, ht, hs.set privateMode content⟩
    · cases hu with
      | partway n =>
        have hsome := h.writeSome content n
        exact ⟨.inl hsome.extends, hsome.discard⟩
      | stuck => exact ⟨.inl h.extends, h.discard⟩
  · cases hw
    exact h
  · cases hw
    exact h
  · obtain ⟨q, ht, hs⟩ := h
    cases (hs.setMode ht sharedMode).symm.trans hw
    exact ⟨q, ht, hs.set sharedMode content⟩
  · obtain ⟨q, ht, hs⟩ := h
    exact hs.rename ht hp hw

theorem chain_plan (h : v.exists? path = true) (hp : v.Reaches false path (.entry p e)) (text : String) :
    Chain (Whole v p e (Utf8.encode text)) (View.Same v) (· = v) (plan v path text)
      (fun w => e ≠ .directory ∧ Rewritten v p sharedMode (Utf8.encode text) w) := by
  rw [plan, if_pos h]
  exact chain_replacingPlan hp _ _

/-- Writing to a file that is there replaces the entry at the end of its path, or leaves all files as they were. -/
theorem write_spec (h : v.exists? path = true) (hp : v.Reaches false path (.entry p e)) (faults : Faults)
    (text : String) :
    ((write faults v path text).failure? = none →
        e ≠ .directory ∧ Rewritten v p sharedMode (Utf8.encode text) (write faults v path text).view) ∧
      ((write faults v path text).failure? ≠ none → View.Same v (write faults v path text).view) := by
  rw [write_eq_run]
  exact (chain_plan h hp text).run_spec (faults 0) rfl

/-- The new text stands at the place that a path named, and no other place has changed. The path reads as the
text, unless it made a detour by the link that was replaced. -/
structure Renewed (v : View) (path : String) (p : Place) (text : String) (w : View) : Prop where
  rewritten : Rewritten v p sharedMode (Utf8.encode text) w
  entry : ¬v.Detours path p → w.entry path = .ok (p, .file sharedMode (Utf8.encode text))
  readText : ¬v.Detours path p → w.readText path = .ok text

theorem Rewritten.renewed {text : String} (h : Rewritten v p sharedMode (Utf8.encode text) w)
    (hp : v.Reaches false path (.entry p e)) (he : e ≠ .directory) : Renewed v path p text w := by
  have hreach (hd : ¬v.Detours path p) : w.Reaches true path (.entry p (.file sharedMode (Utf8.encode text))) :=
    hp.replaced he hd h.sameBut h.here (Entry.isPlain_file _ _) true
  refine ⟨h, fun hd => View.entry_eq_ok_iff.mpr (hreach hd), fun hd => ?_⟩
  exact View.readText_eq_ok_iff.mpr ⟨p, _, _, hreach hd, rfl, Utf8.decode?_encode text⟩

theorem write_readable {s : String} (h : v.readText path = .ok s) (faults : Faults) (text : String) :
    ((write faults v path text).failure? = none → (write faults v path text).view.readText path = .ok text) ∧
      ((write faults v path text).failure? ≠ none → View.Same v (write faults v path text).view) := by
  obtain ⟨q, f, bytes, hq, hc, -⟩ := View.readText_eq_ok_iff.mp h
  obtain ⟨p, e, hp⟩ := hq.unfollowed
  obtain ⟨hdone, hfailed⟩ := write_spec (View.exists?_of_readText h) hp faults text
  refine ⟨fun hf => ?_, hfailed⟩
  obtain ⟨he, hw⟩ := hdone hf
  exact (hw.renewed hp he).readText (hq.not_detours (View.isPlain_of_contentOf? hc) hp)

theorem exists_reaches (h : v.exists? path = true) : ∃ p e, v.Reaches true path (.entry p e) := by
  rw [View.exists?] at h
  cases he : v.entry path with
  | ok m => exact ⟨m.1, m.2, View.entry_eq_ok_iff.mp he⟩
  | error f =>
    rw [he] at h
    cases h

/-- While a file that is there is replaced, whichever steps fail, every entry that was there is still there and
the path leads where it led, or the new text stands at the place that the path named. The latter is so in the
end if nothing failed, and otherwise all places are as they were. A path that could be read makes no detour. -/
theorem replacement_is_whole_or_nothing (faults : Faults) (v : View) (path text : String)
    (hexists : v.exists? path = true) :
    let r := write faults v path text
    ∃ p e, v.Reaches false path (.entry p e) ∧
      (∀ u, SeenWhile faults v path text u →
        (View.Extends v u ∧ u.entry path = v.entry path) ∨ Renewed v path p text u) ∧
      (r.failure? ≠ none → View.Same v r.view) ∧
      (r.failure? = none → Renewed v path p text r.view) ∧
      ((v.readBytes path).isOk = true → ¬v.Detours path p) := by
  intro r
  obtain ⟨q, f, hq⟩ := exists_reaches hexists
  obtain ⟨p, e, hp⟩ := hq.unfollowed
  obtain ⟨hdone, hfailed⟩ := write_spec hexists hp faults text
  refine ⟨p, e, hp, fun u hu => ?_, hfailed, fun h => ?_, fun h => ?_⟩
  · have hsame : ∀ w, View.Same v w → Whole v p e (Utf8.encode text) w := fun w hw => .inl hw.extends
    rcases (chain_plan hexists hp text).seen_spec hsame rfl hu with hext | ⟨he, hu⟩
    · refine .inl ⟨hext, ?_⟩
      rw [View.entry_eq_ok_iff.mpr (hq.mono hext), View.entry_eq_ok_iff.mpr hq]
    · exact .inr (hu.renewed hp he)
  · obtain ⟨he, hw⟩ := hdone h
    exact hw.renewed hp he
  · cases hb : v.readBytes path with
    | error e =>
      rw [hb] at h
      cases h
    | ok bytes =>
      obtain ⟨q', f', hq', hc⟩ := View.readBytes_eq_ok_iff.mp hb
      exact hq'.not_detours (View.isPlain_of_contentOf? hc) hp

/-- A private file is replaced, and stays as it is when the new one cannot be put in its place. -/
theorem replacement_of_private_file :
    let v : View := ⟨⟨[(["o"], .file 0o600 [111])]⟩, []⟩
    let stuck : Faults := fun _ s => if s = .rename then some ⟨.resourceBusy, 0⟩ else none
    (write noFaults v "/o" "new").view.readText "/o" = .ok "new" ∧
      (write stuck v "/o" "new").view.readText "/o" = .ok "o" := by
  intro v stuck
  have hthere : v.exists? "/o" = true := by decide +kernel
  have hreads : v.readText "/o" = .ok "o" := by decide +kernel
  obtain ⟨p, e, -, -, -, hrenewed, hstraight⟩ := replacement_is_whole_or_nothing noFaults v "/o" "new" hthere
  obtain ⟨-, -, -, -, hsame, -⟩ := replacement_is_whole_or_nothing stuck v "/o" "new" hthere
  have hfails : (write stuck v "/o" "new").failure? ≠ none := by decide +kernel
  exact ⟨(hrenewed (by decide +kernel)).readText (hstraight (by decide +kernel)),
    View.readText_of_extends hreads (hsame hfails).extends⟩

/-- A path that makes a detour by the link that it ends at leads nowhere once the link is replaced, though
nothing failed. -/
theorem replaced_detour_leads_nowhere :
    let v : View := ⟨⟨[(["d"], .directory), (["l"], .link "d")]⟩, []⟩
    let r := write noFaults v "l/../l" "new"
    v.exists? "l/../l" = true ∧ r.failure? = none ∧
      r.view.tree.get? ["l"] = some (.file 0o644 [110, 101, 119]) ∧
      r.view.readText "l/../l" = .error .notADirectory := by
  decide +kernel

end Stencil.Filesystem.AtomicWrite
