import Stencil.Filesystem.Access
import Stencil.Proofs.Filesystem.Walk

set_option autoImplicit false
set_option relaxedAutoImplicit false

/-!
What a path leads to in a view of the files, and what is read there. Main statements: what is read does not
change while all entries that are there stay; what takes the place of a file, or of a link that the path does not
follow on its way, is read in its place; and what takes the place of one file is not seen at another.
-/

namespace Stencil.Filesystem.View

/-- A path leads to something, with links at its end followed or not. -/
def Reaches (v : View) (last : Bool) (path : String) (f : Found) : Prop :=
  resolve v.tree v.working last path = .ok f

/-- On its way, a path follows the link at a place, where links at its end are not followed. -/
def Detours (v : View) (path : String) (q : Place) : Prop :=
  Follows v.tree false linkLimit (if Path.isAbsolute path then [] else v.working) (endsInSlash path)
    (namesOf path) q

structure Extends (v w : View) : Prop where
  working : w.working = v.working
  keeps : ∀ p e, v.tree.get? p = some e → w.tree.get? p = some e

structure Same (v w : View) : Prop where
  working : w.working = v.working
  get? : ∀ p, w.tree.get? p = v.tree.get? p

/-- Two views show the same files, except perhaps at a place. -/
structure SameBut (q : Place) (v w : View) : Prop where
  working : w.working = v.working
  get? : ∀ p, p ≠ q → w.tree.get? p = v.tree.get? p

variable {v w : View} {last : Bool} {path : String} {f : Found} {p q : Place} {e : Entry}

theorem Same.refl (v : View) : Same v v := ⟨rfl, fun _ => rfl⟩

theorem Same.extends (h : Same v w) : Extends v w :=
  ⟨h.working, fun p _ hp => (h.get? p).trans hp⟩

theorem Extends.refl (v : View) : Extends v v := ⟨rfl, fun _ _ hp => hp⟩

theorem Extends.trans {u : View} (h : Extends v u) (h' : Extends u w) : Extends v w :=
  ⟨h'.working.trans h.working, fun p e hp => h'.keeps p e (h.keeps p e hp)⟩

theorem SameBut.extends (h : SameBut q v w) (hq : v.tree.get? q = none) : Extends v w := by
  refine ⟨h.working, fun p e hp => ?_⟩
  have hne : p ≠ q := by
    rintro rfl
    cases hq.symm.trans hp
  exact (h.get? p hne).trans hp

theorem resolve_eq (working : Place) (path : String) :
    (∃ error, ∀ t' last', resolve t' working last' path = .error error) ∨
    ∀ t' last', resolve t' working last' path =
      follow t' last' linkLimit (if Path.isAbsolute path then [] else working) (endsInSlash path)
        (namesOf path) := by
  by_cases h1 : '\x00' ∈ path.toList
  · exact .inl ⟨.invalidInput, fun _ _ => by rw [resolve, if_pos h1]⟩
  · by_cases h2 : path.isEmpty = true
    · exact .inl ⟨.notFound, fun _ _ => by rw [resolve, if_neg h1, if_pos h2]⟩
    · by_cases h3 : pathLimit ≤ path.utf8ByteSize
      · exact .inl ⟨.invalidFilename, fun _ _ => by rw [resolve, if_neg h1, if_neg h2, if_pos h3]⟩
      · exact .inr fun _ _ => by rw [resolve, if_neg h1, if_neg h2, if_neg h3]

theorem Reaches.walk (h : Reaches v last path f) :
    Walk v.tree last linkLimit (if Path.isAbsolute path then [] else v.working) (endsInSlash path)
        (namesOf path) f ∧
      ∀ (w : View) (last' : Bool) (g : Found), w.working = v.working →
        (Reaches w last' path g ↔
          Walk w.tree last' linkLimit (if Path.isAbsolute path then [] else v.working) (endsInSlash path)
            (namesOf path) g) := by
  rcases resolve_eq v.working path with ⟨error, he⟩ | hf
  · cases (he v.tree last).symm.trans h
  · refine ⟨follow_eq_ok_iff.mp ((hf v.tree last).symm.trans h), fun w last' g hw => ?_⟩
    rw [Reaches, hw, hf, follow_eq_ok_iff]

theorem Reaches.found_in (h : Reaches v last path f) : f.In v.tree := h.walk.1.found_in

theorem Reaches.mono (h : Reaches v last path (.entry p e)) (hv : Extends v w) :
    Reaches w last path (.entry p e) := by
  obtain ⟨hw, hiff⟩ := h.walk
  exact (hiff w last _ hv.working).mpr (hw.mono hv.keeps)

theorem Reaches.created (h : Reaches v last path (.free p false)) (hv : Extends v w)
    (he : w.tree.get? p = some e) (hp : e.IsPlain) {last' : Bool} (hlast : last = true → last' = true) :
    Reaches w last' path (.entry p e) := by
  obtain ⟨hw, hiff⟩ := h.walk
  exact (hiff w last' _ hv.working).mpr (hw.created hv.keeps he hp.2 hlast)

theorem Reaches.unfollowed (h : Reaches v true path (.entry p e)) :
    ∃ q g, Reaches v false path (.entry q g) := by
  obtain ⟨hw, hiff⟩ := h.walk
  obtain ⟨q, g, hq, -⟩ := hw.unfollowed
  exact ⟨q, g, (hiff v false _ rfl).mpr hq⟩

/-- A path that leads to something else than a directory does so as well when links at its end are not followed. -/
theorem Reaches.unfollowed_ne {g : Entry} (h : Reaches v true path (.entry p e)) (he : e ≠ .directory)
    (hq : Reaches v false path (.entry q g)) : g ≠ .directory := by
  obtain ⟨hw, hiff⟩ := h.walk
  obtain ⟨r, x, hr, ho⟩ := hw.unfollowed
  cases ((hiff v false _ rfl).mp hq).unique hr
  rcases ho with ⟨-, rfl⟩ | ⟨target, -, -, rfl, -⟩
  · exact he
  · exact nofun

theorem Reaches.not_detours {g : Entry} (h : Reaches v true path (.entry p e)) (he : e.IsPlain)
    (hq : Reaches v false path (.entry q g)) : ¬v.Detours path q := by
  obtain ⟨hw, hiff⟩ := h.walk
  exact hw.not_follows_end he ((hiff v false _ rfl).mp hq)

/-- A path leads to what comes in place of the entry at its end, unless it makes a detour by that entry. -/
theorem Reaches.replaced {g u : Entry} (hq : Reaches v false path (.entry q g)) (hg : g ≠ .directory)
    (hd : ¬v.Detours path q) (hw : SameBut q v w) (hu : w.tree.get? q = some u) (hp : u.IsPlain)
    (last' : Bool) : Reaches w last' path (.entry q u) := by
  obtain ⟨hwalk, hiff⟩ := hq.walk
  refine (hiff w last' _ hw.working).mpr (hwalk.replaced hg hd (fun r x hr hx => ?_) hu hp last')
  exact (hw.get? r hr).trans hx

theorem Reaches.rewritten {u : Entry} (h : Reaches v last path (.entry p e)) (he : e.IsPlain)
    (hw : SameBut p v w) (hu : w.tree.get? p = some u) (hp : u.IsPlain) : Reaches w last path (.entry p u) := by
  obtain ⟨hwalk, hiff⟩ := h.walk
  refine (hiff w last _ hw.working).mpr (hwalk.rewritten he (fun r x hr hx => ?_) hu hp)
  exact (hw.get? r hr).trans hx

/-- What comes in place of the entry at the end of a path to something plain is not seen by a path that leads to
something plain elsewhere. -/
theorem Reaches.undisturbed {r : Place} {g x : Entry} {other : String}
    (h : Reaches v true other (.entry q x)) (hx : x.IsPlain) (ha : Reaches v true path (.entry p e))
    (he : e.IsPlain) (hr : Reaches v false path (.entry r g)) (hpq : q ≠ p) (hw : SameBut r v w) :
    Reaches w true other (.entry q x) := by
  obtain ⟨hwalk, hiff⟩ := h.walk
  refine (hiff w true _ hw.working).mpr (hwalk.undisturbed hx ha.walk.1 he hr.walk.1 hpq fun s y hs hy => ?_)
  exact (hw.get? s hs).trans hy

theorem Reaches.end_ne {r : Place} {g x : Entry} (ha : Reaches v true path (.entry p e))
    (hr : Reaches v false path (.entry r g)) (hq : v.tree.get? q = some x) (hx : x.IsPlain) (hpq : q ≠ p) :
    q ≠ r := by
  rintro rfl
  obtain ⟨hw, hiff⟩ := ha.walk
  obtain ⟨r', g', hr', ho⟩ := hw.unfollowed
  cases ((hiff v false _ rfl).mp hr).unique hr'
  have hg : v.tree.get? q = some g := hr.found_in
  cases Option.some.inj (hq.symm.trans hg)
  rcases ho with ⟨rfl, -⟩ | ⟨target, -, -, rfl, -⟩
  · exact hpq rfl
  · exact hx.2 target rfl

def contentOf? : Entry → Option (List UInt8)
  | .file _ content => some content
  | .sink => some []
  | _ => none

theorem isPlain_of_contentOf? {bytes : List UInt8} (h : contentOf? e = some bytes) : e.IsPlain := by
  cases e with
  | directory => cases h
  | link target => cases h
  | file mode content => exact ⟨nofun, nofun⟩
  | sink => exact ⟨nofun, nofun⟩

theorem entry_eq_ok_iff : v.entry path = .ok (p, e) ↔ Reaches v true path (.entry p e) := by
  rw [entry, Reaches]
  constructor
  · intro h
    split at h
    · next hr =>
      cases h
      exact hr
    · cases h
    · cases h
  · intro h
    rw [h]

theorem isFile_eq_true_iff :
    v.isFile path = true ↔ ∃ p mode bytes, Reaches v true path (.entry p (.file mode bytes)) := by
  rw [isFile]
  constructor
  · intro h
    split at h
    · next p mode bytes he => exact ⟨p, mode, bytes, entry_eq_ok_iff.mp he⟩
    · cases h
  · rintro ⟨p, mode, bytes, hp⟩
    rw [entry_eq_ok_iff.mpr hp]

theorem readBytes_eq_ok_iff {bytes : List UInt8} :
    v.readBytes path = .ok bytes ↔ ∃ p e, Reaches v true path (.entry p e) ∧ contentOf? e = some bytes := by
  rw [readBytes]
  constructor
  · intro h
    split at h
    · next he =>
      cases h
      exact ⟨_, _, entry_eq_ok_iff.mp he, rfl⟩
    · next he =>
      cases h
      exact ⟨_, _, entry_eq_ok_iff.mp he, rfl⟩
    · cases h
    · cases h
  · rintro ⟨p, e, hr, hc⟩
    rw [entry_eq_ok_iff.mpr hr]
    cases e with
    | directory => cases hc
    | link target => cases hc
    | file mode content => exact congrArg Except.ok (Option.some.inj hc)
    | sink => exact congrArg Except.ok (Option.some.inj hc)

theorem readText_eq_ok_iff {s : String} :
    v.readText path = .ok s ↔ ∃ p e bytes, Reaches v true path (.entry p e) ∧
      contentOf? e = some bytes ∧ Text.Utf8.decode? bytes = some s := by
  rw [readText]
  constructor
  · intro h
    split at h
    · next bytes hb =>
      split at h
      · next hd =>
        cases h
        obtain ⟨p, e, hr, hc⟩ := readBytes_eq_ok_iff.mp hb
        exact ⟨p, e, bytes, hr, hc, hd⟩
      · cases h
    · cases h
  · rintro ⟨p, e, bytes, hr, hc, hd⟩
    rw [readBytes_eq_ok_iff.mpr ⟨p, e, hr, hc⟩]
    dsimp only
    rw [hd]

theorem readText_of_extends {s : String} (h : v.readText path = .ok s) (hv : Extends v w) :
    w.readText path = .ok s := by
  obtain ⟨p, e, bytes, hr, hc, hd⟩ := readText_eq_ok_iff.mp h
  exact readText_eq_ok_iff.mpr ⟨p, e, bytes, hr.mono hv, hc, hd⟩

theorem readText_congr (h : w.entry path = v.entry path) : w.readText path = v.readText path := by
  rw [readText, readText, readBytes, readBytes, h]

theorem exists?_of_readText {s : String} (h : v.readText path = .ok s) : v.exists? path = true := by
  obtain ⟨p, e, bytes, hr, -⟩ := readText_eq_ok_iff.mp h
  rw [exists?, entry_eq_ok_iff.mpr hr]
  rfl

end Stencil.Filesystem.View
