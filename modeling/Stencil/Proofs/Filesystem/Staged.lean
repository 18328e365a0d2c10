import Stencil.Filesystem.AtomicWrite
import Stencil.Proofs.Filesystem.Reach

set_option autoImplicit false
set_option relaxedAutoImplicit false

/-!
A file that is made at a free place, so that everything that was there stays there. Main statements: it can be
written, given other permissions and removed by the path that led to the free place, and it takes the place of
the entry at the end of a path, unless that is a directory; no other place changes.
-/

namespace Stencil.Filesystem.AtomicWrite

/-- A file of its own stands at a place that was free, and no other place has changed. -/
structure Staged (v : View) (q : Place) (mode : Nat) (content : List UInt8) (w : View) : Prop where
  free : v.tree.get? q = none
  sameBut : View.SameBut q v w
  here : w.tree.get? q = some (.file mode content)

/-- A file stands at a place, and no other place has changed. -/
structure Rewritten (v : View) (p : Place) (mode : Nat) (content : List UInt8) (w : View) : Prop where
  sameBut : View.SameBut p v w
  here : w.tree.get? p = some (.file mode content)

variable {v w w' : View} {q : Place} {mode : Nat} {content : List UInt8} {temporary path : String}

theorem Staged.extends (h : Staged v q mode content w) : View.Extends v w := h.sameBut.extends h.free

/-- The path that led to the free place leads to the file, whether links at its end are followed or not. -/
theorem Staged.reaches {last last' : Bool} (h : Staged v q mode content w)
    (ht : v.Reaches last path (.free q false)) (hlast : last = true → last' = true) :
    w.Reaches last' path (.entry q (.file mode content)) :=
  ht.created h.extends h.here (Entry.isPlain_file mode content) hlast

theorem Staged.set (h : Staged v q mode content w) (mode' : Nat) (content' : List UInt8) :
    Staged v q mode' content' { w with tree := w.tree.set q (.file mode' content') } := by
  have hq : q ≠ [] := Tree.ne_nil_of_free h.free
  refine ⟨h.free, ⟨h.sameBut.working, fun p hp => ?_⟩, Tree.get?_set_self _ _ hq⟩
  exact (Tree.get?_set_ne _ _ hp).trans (h.sameBut.get? p hp)

theorem staged_of_createNew (h : v.createNew temporary mode = .ok w) :
    ∃ q, v.Reaches false temporary (.free q false) ∧ Staged v q mode [] w := by
  rw [View.createNew] at h
  split at h
  · next p hp =>
    cases h
    have hfree : v.tree.get? p = none := View.Reaches.found_in hp
    have hne : p ≠ [] := Tree.ne_nil_of_free hfree
    exact ⟨p, hp, hfree, ⟨rfl, fun r hr => Tree.get?_set_ne _ _ hr⟩, Tree.get?_set_self _ _ hne⟩
  · cases h
  · cases h
  · cases h

theorem Staged.write {last : Bool} (h : Staged v q mode content w) (ht : v.Reaches last path (.free q false))
    (bytes : List UInt8) :
    w.write path bytes = .ok { w with tree := w.tree.set q (.file mode bytes) } := by
  have hr : resolve w.tree w.working true path = _ := h.reaches ht fun _ => rfl
  simp [View.write, View.openForWriting, hr, Except.map]

theorem Staged.setMode (h : Staged v q mode content w) (ht : v.Reaches false temporary (.free q false))
    (mode' : Nat) :
    w.setMode temporary mode' = .ok { w with tree := w.tree.set q (.file mode' content) } := by
  have hr : resolve w.tree w.working true temporary = _ := h.reaches ht fun _ => rfl
  simp [View.setMode, View.entry, hr, Except.map]

theorem Staged.discard (h : Staged v q mode content w) (ht : v.Reaches false temporary (.free q false)) :
    View.Same v (discard temporary w) := by
  have hr : resolve w.tree w.working false temporary = _ := h.reaches ht nofun
  have hq : q ≠ [] := Tree.ne_nil_of_free h.free
  have he : AtomicWrite.discard temporary w = { w with tree := w.tree.unlink q } := by
    simp [AtomicWrite.discard, View.remove, hr]
  rw [he]
  refine ⟨h.sameBut.working, fun p => ?_⟩
  by_cases hp : p = q
  · subst hp
    exact (Tree.get?_unlink_self _ hq).trans h.free.symm
  · exact (Tree.get?_unlink_ne _ hp).trans (h.sameBut.get? p hp)

/-- The file beside takes the place of the entry at the end of a path, unless that is a directory. -/
theorem Staged.rename {p : Place} {e : Entry} (h : Staged v q mode content w)
    (ht : v.Reaches false temporary (.free q false)) (hp : v.Reaches false path (.entry p e))
    (hw : w.rename temporary path = .ok w') : e ≠ .directory ∧ Rewritten v p mode content w' := by
  have hr : resolve w.tree w.working false temporary = _ := h.reaches ht nofun
  have hr' : resolve w.tree w.working false path = _ := hp.mono h.extends
  have hold : v.tree.get? p = some e := hp.found_in
  have hqp : q ≠ p := by
    rintro rfl
    cases h.free.symm.trans hold
  have hq0 : q ≠ [] := Tree.ne_nil_of_free h.free
  have hw' : e ≠ .directory ∧ w' = { w with tree := (w.tree.unlink q).set p (.file mode content) } := by
    simp only [View.rename, hr, hr', hqp, if_false] at hw
    split at hw
    · cases hw
    · cases e with
      | directory =>
        dsimp only at hw
        split at hw <;> cases hw
      | file | link | sink =>
        dsimp only at hw
        split at hw
        · cases hw
        · cases hw
          exact ⟨nofun, rfl⟩
  obtain ⟨he, rfl⟩ := hw'
  have hp0 : p ≠ [] := Tree.ne_nil_of_get? fun hd => he (Option.some.inj (hold.symm.trans hd))
  refine ⟨he, ⟨h.sameBut.working, fun r hrp => ?_⟩, Tree.get?_set_self _ _ hp0⟩
  rw [Tree.get?_set_ne _ _ hrp]
  by_cases hrq : r = q
  · subst hrq
    exact (Tree.get?_unlink_self _ hq0).trans h.free.symm
  · exact (Tree.get?_unlink_ne _ hrq).trans (h.sameBut.get? r hrq)

end Stencil.Filesystem.AtomicWrite
