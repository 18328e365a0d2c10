import Stencil.Proofs.Filesystem.Replacement

set_option autoImplicit false
set_option relaxedAutoImplicit false

/-!
Several files that are kept at different places, each known by a path. Main statement: writing to one of them
leaves the others as they were, and all of them at different places.
-/

namespace Stencil.Filesystem

namespace View

/-- Where two paths lead to entries, these are at different places. -/
def Apart (v : View) (a b : String) : Prop :=
  ∀ p q e f, v.entry a = .ok (p, e) → v.entry b = .ok (q, f) → p ≠ q

/-- Paths, none named twice, by which texts can be read at different places. -/
structure Separate (v : View) (paths : List String) : Prop where
  nodup : paths.Nodup
  readable : ∀ o ∈ paths, ∃ s, v.readText o = .ok s
  apart : ∀ a ∈ paths, ∀ b ∈ paths, a ≠ b → Apart v a b

variable {v w : View} {paths : List String} {a b : String}

theorem Apart.symm (h : Apart v a b) : Apart v b a := fun p q e f ha hb => (h q p f e hb ha).symm

theorem Apart.congr (h : Apart v a b) (ha : w.entry a = v.entry a) (hb : w.entry b = v.entry b) : Apart w a b := by
  rw [Apart, ha, hb]
  exact h

theorem Separate.congr (h : Separate v paths) (he : ∀ o ∈ paths, w.entry o = v.entry o) : Separate w paths where
  nodup := h.nodup
  readable o ho := by
    rw [readText_congr (he o ho)]
    exact h.readable o ho
  apart a ha b hb hab := (h.apart a ha b hb hab).congr (he a ha) (he b hb)

theorem Separate.exists_plain (h : Separate v paths) {o : String} (ho : o ∈ paths) :
    ∃ p e, Reaches v true o (.entry p e) ∧ e.IsPlain := by
  obtain ⟨s, hs⟩ := h.readable o ho
  obtain ⟨p, e, bytes, hr, hc, -⟩ := readText_eq_ok_iff.mp hs
  exact ⟨p, e, hr, isPlain_of_contentOf? hc⟩

theorem entry_eq_of_same {o : String} {p : Place} {e : Entry} (h : Same v w) (hr : Reaches v true o (.entry p e)) :
    w.entry o = v.entry o := by
  rw [entry_eq_ok_iff.mpr hr, entry_eq_ok_iff.mpr (hr.mono h.extends)]

end View

namespace AtomicWrite

open View

/-- What becomes of files at different places when one of them is written. -/
structure Aside (v : View) (paths : List String) (path : String) (r : WriteRun) : Prop where
  working : r.view.working = v.working
  separate : Separate r.view paths
  others : ∀ o ∈ paths, o ≠ path → r.view.entry o = v.entry o
  failed : r.failure? ≠ none → r.view.entry path = v.entry path

section Aside

variable {v w : View} {paths : List String} {path o : String} {p q : Place} {e g : Entry}

/-- A file elsewhere is neither the one that was written nor the link by which that was reached. -/
theorem entry_elsewhere (h : Separate v paths) (hpath : path ∈ paths) (hr : v.Reaches true path (.entry p e))
    (he : e.IsPlain) (hq : v.Reaches false path (.entry q g)) (hw : SameBut q v w) (ho : o ∈ paths)
    (hne : o ≠ path) : ∃ r x, r ≠ q ∧ v.entry o = .ok (r, x) ∧ w.entry o = .ok (r, x) := by
  obtain ⟨r, x, hro, hx⟩ := h.exists_plain ho
  have hrp : r ≠ p := h.apart o ho path hpath hne r p x e (entry_eq_ok_iff.mpr hro) (entry_eq_ok_iff.mpr hr)
  exact ⟨r, x, hr.end_ne hq hro.found_in hx hrp, entry_eq_ok_iff.mpr hro,
    entry_eq_ok_iff.mpr (hro.undisturbed hx hr he hq hrp hw)⟩

theorem separate_of_renewed (h : Separate v paths) {content : Entry} {text : String}
    (hentry : w.entry path = .ok (q, content)) (hread : w.readText path = .ok text)
    (hothers : ∀ o ∈ paths, o ≠ path → ∃ r x, r ≠ q ∧ v.entry o = .ok (r, x) ∧ w.entry o = .ok (r, x)) :
    Separate w paths := by
  have hkept : ∀ o ∈ paths, o ≠ path → w.entry o = v.entry o := by
    intro o ho hne
    obtain ⟨r, x, -, hv, hw⟩ := hothers o ho hne
    rw [hv, hw]
  have hpath : ∀ o ∈ paths, o ≠ path → Apart w o path := by
    intro o ho hne r' q' x' f' ho' hp'
    obtain ⟨r, x, hrq, -, hwo⟩ := hothers o ho hne
    cases hwo.symm.trans ho'
    cases hentry.symm.trans hp'
    exact hrq
  refine ⟨h.nodup, fun o ho => ?_, fun a ha b hb hab => ?_⟩
  · by_cases hne : o = path
    · exact ⟨text, hne ▸ hread⟩
    · rw [readText_congr (hkept o ho hne)]
      exact h.readable o ho
  · by_cases hbp : b = path
    · subst hbp
      exact hpath a ha hab
    · by_cases hap : a = path
      · subst hap
        exact (hpath b hb hbp).symm
      · exact (h.apart a ha b hb hab).congr (hkept a ha hap) (hkept b hb hbp)

theorem write_aside (h : Separate v paths) (hpath : path ∈ paths) (faults : Faults) (text : String) :
    Aside v paths path (write faults v path text) := by
  obtain ⟨p, e, hr, he⟩ := h.exists_plain hpath
  obtain ⟨s, hs⟩ := h.readable path hpath
  obtain ⟨q, g, hq⟩ := hr.unfollowed
  obtain ⟨hdone, hfailed⟩ := write_spec (exists?_of_readText hs) hq faults text
  by_cases hf : (write faults v path text).failure? = none
  · obtain ⟨hg, hw⟩ := hdone hf
    have hnew := hw.renewed hq hg
    have hstraight := hr.not_detours he hq
    have hothers := fun o (ho : o ∈ paths) (hne : o ≠ path) =>
      entry_elsewhere h hpath hr he hq hw.sameBut ho hne
    refine ⟨hw.sameBut.working, separate_of_renewed h (hnew.entry hstraight) (hnew.readText hstraight) hothers,
      fun o ho hne => ?_, fun hn => absurd hf hn⟩
    obtain ⟨r, x, -, hv, hw⟩ := hothers o ho hne
    rw [hv, hw]
  · have hsame := hfailed hf
    have hkept : ∀ o ∈ paths, (write faults v path text).view.entry o = v.entry o := by
      intro o ho
      obtain ⟨r, x, hro, -⟩ := h.exists_plain ho
      exact entry_eq_of_same hsame hro
    exact ⟨hsame.working, h.congr hkept, fun o ho _ => hkept o ho, fun _ => hkept path hpath⟩

end Aside

end AtomicWrite

end Stencil.Filesystem
