import Mathlib.Data.List.Nodup
import Mathlib.Data.List.Perm.Subperm
import Stencil.Proofs.Decimal.Fixed
import Stencil.Proofs.Filesystem.Siblings
import Stencil.Proofs.Filesystem.Straight

set_option autoImplicit false
set_option relaxedAutoImplicit false

/-!
Writing a file again that was just made. The temporary file of the second write has a longer name than the file itself.
Main statement: the second write is done if the temporary name and its path are within limits, which they are unless
the name of the file or its path is close to its own limit; otherwise it is refused and the file stays as it was made.
-/

namespace Stencil.Filesystem

open Stencil.Text

namespace AtomicWrite

/-! ### Temporary names -/

section Names

variable {path name : String}

theorem temporaryName_eq (h : Path.fileName? path = some name) (n : Nat) :
    temporaryName path n = "." ++ name ++ "." ++ String.ofList (Decimal.padded 6 n) := by
  rw [temporaryName, h]
  rfl

theorem isSibling_temporaryName (h : Path.fileName? path = some name) (hslash : '/' ∉ name.toList)
    (hzero : '\x00' ∉ name.toList) (n : Nat) : IsSibling (temporaryName path n) := by
  have hlist : (temporaryName path n).toList = '.' :: (name.toList ++ '.' :: Decimal.padded 6 n) := by
    simp [temporaryName_eq h]
  have hlength : 8 ≤ (temporaryName path n).toList.length := by
    have hwidth := Decimal.width_le_length_padded 6 n
    rw [hlist, List.length_cons, List.length_append, List.length_cons]
    omega
  have hother {c : Char} (hc : c ∉ name.toList) (hdigit : ¬c.isDigit) (hpoint : c ≠ '.') :
      c ∉ (temporaryName path n).toList := by
    have hpadded : c ∉ Decimal.padded 6 n := fun hmem => hdigit (Decimal.isDigit_of_mem_padded hmem)
    simp [hlist, hc, hpoint, hpadded]
  refine ⟨?_, ?_, ?_, hother hslash (by decide) (by decide), hother hzero (by decide) (by decide)⟩ <;>
  · intro heq
    rw [heq] at hlength
    revert hlength
    decide

theorem temporaryName_injective (path : String) : Function.Injective (temporaryName path) := by
  intro m n h
  have hlists := congrArg String.toList h
  simp only [temporaryName, String.toList_append, String.toList_ofList, List.append_cancel_left_eq] at hlists
  exact Decimal.padded_injective 6 hlists

theorem utf8ByteSize_temporaryName (h : Path.fileName? path = some name) (n : Nat) :
    (temporaryName path n).utf8ByteSize = name.utf8ByteSize + 2 + (Decimal.padded 6 n).length := by
  have hpoint : ".".utf8ByteSize = 1 := by decide
  have hdigits : (String.ofList (Decimal.padded 6 n)).utf8ByteSize = (Decimal.padded 6 n).length :=
    (Utf8.utf8ByteSize_ofList _).trans (Decimal.byteLength_padded 6 n)
  rw [temporaryName_eq h, String.utf8ByteSize_append, String.utf8ByteSize_append, String.utf8ByteSize_append, hdigits,
    hpoint]
  omega

end Names

theorem exists_free (t : Tree) (top : Place) {names : Nat → String} (hnames : Function.Injective names) :
    ∃ n ∈ List.range (t.entries.length + 1), t.get? (top ++ [names n]) = none := by
  by_contra hall
  -- the places under these names differ, and would all be among those of the entries
  have hsub : (List.range (t.entries.length + 1)).map (fun n => top ++ [names n]) ⊆ t.entries.map Prod.fst := by
    intro p hp
    obtain ⟨n, hn, rfl⟩ := List.mem_map.mp hp
    have hsome : (t.get? (top ++ [names n])).isSome := by
      rw [Option.isSome_iff_ne_none]
      exact fun hnone => hall ⟨n, hn, hnone⟩
    rw [Tree.get?_of_ne_nil t (by simp), List.lookup_isSome_iff] at hsome
    obtain ⟨m, hm, heq⟩ := hsome
    exact List.mem_map.mpr ⟨m, hm, (beq_iff_eq.mp heq).symm⟩
  have hnodup : ((List.range (t.entries.length + 1)).map fun n => top ++ [names n]).Nodup :=
    List.Nodup.map (fun m n h => hnames (by simpa using h)) List.nodup_range
  have hlength := (hnodup.subperm hsub).length_le
  simp only [List.length_map, List.length_range] at hlength
  omega

theorem temporaryPath_eq (v : View) (path : String) :
    temporaryPath v path =
      beside path (temporaryName path (((List.range (v.tree.entries.length + 1)).find? fun n =>
        !isTaken v (beside path (temporaryName path n))).getD 0)) :=
  rfl

section Temporary

variable {v : View} {last : Bool} {path name : String} {front : List Char} {f : Found}

/-- The temporary path leads to a free place, unless the temporary name or its path is too long. -/
theorem temporaryPath_spec (h : v.Reaches last path f) (hp : EndsIn path front name) (hn : IsName name) :
    ∃ n ≤ v.tree.entries.length, temporaryPath v path = beside path (temporaryName path n) ∧
      IsSibling (temporaryName path n) ∧
      (WithinLimits (temporaryPath v path) → ∃ q, v.Reaches false (temporaryPath v path) (.free q false)) ∧
      (¬WithinLimits (temporaryPath v path) →
        resolve v.tree v.working false (temporaryPath v path) = .error .invalidFilename) := by
  obtain ⟨top, -, hresolve⟩ := h.resolve_beside hp hn.ne_dot
  have hzero : '\x00' ∉ name.toList := fun hmem =>
    h.zero_notMem (by rw [hp.eq]; exact List.mem_append_right _ hmem)
  have hsibling := isSibling_temporaryName (hp.fileName?_eq hn.ne_dot hn.ne_dots) hp.slash hzero
  have hnotTaken {n : Nat} (hfree : v.tree.get? (top ++ [temporaryName path n]) = none) :
      isTaken v (beside path (temporaryName path n)) = false := by
    rw [isTaken, hresolve _ (hsibling n), foundAt, hfree]
    split_ifs <;> rfl
  obtain ⟨m, hm, hfree⟩ := exists_free v.tree top (temporaryName_injective path)
  obtain ⟨n, hfound⟩ : ∃ n, (List.range (v.tree.entries.length + 1)).find?
      (fun n => !isTaken v (beside path (temporaryName path n))) = some n := by
    rw [← Option.isSome_iff_exists, List.find?_isSome]
    exact ⟨m, hm, by simp [hnotTaken hfree]⟩
  have hpath : temporaryPath v path = beside path (temporaryName path n) := by
    rw [temporaryPath_eq, hfound]
    rfl
  have hfirst : isTaken v (beside path (temporaryName path n)) = false := by simpa using List.find?_some hfound
  have hmem := List.mem_range.mp (List.mem_of_find?_eq_some hfound)
  refine ⟨n, Nat.lt_succ_iff.mp hmem, hpath, hsibling n, fun hlimits => ?_, fun hlimits => ?_⟩
  · rw [hpath] at hlimits ⊢
    have hresolved := (hresolve _ (hsibling n)).trans (if_pos hlimits)
    refine ⟨top ++ [temporaryName path n], hresolved.trans ?_⟩
    rw [isTaken, hresolved] at hfirst
    rw [foundAt] at hfirst ⊢
    cases he : v.tree.get? (top ++ [temporaryName path n]) with
    | none => rfl
    | some e =>
      rw [he] at hfirst
      cases hfirst
  · rw [hpath] at hlimits ⊢
    exact (hresolve _ (hsibling n)).trans (if_neg hlimits)

theorem not_withinLimits_of_long (h : v.Reaches last path f) (hp : EndsIn path front name) (hn : IsName name)
    (hlong : nameLimit < name.utf8ByteSize + 8) : ¬WithinLimits (temporaryPath v path) := by
  obtain ⟨n, -, hpath, hsibling, -, -⟩ := temporaryPath_spec h hp hn
  have hbytes := utf8ByteSize_temporaryName (hp.fileName?_eq hn.ne_dot hn.ne_dots) n
  have hwidth := Decimal.width_le_length_padded 6 n
  rw [hpath, h.withinLimits_beside_iff hp hn.ne_dot hsibling]
  omega

theorem withinLimits_of_room (h : v.Reaches last path f) (hp : EndsIn path front name) (hn : IsName name)
    (hroom : name.utf8ByteSize + 8 ≤ nameLimit) (hpathRoom : path.utf8ByteSize + 10 < pathLimit)
    (hfew : v.tree.entries.length < 10 ^ 6) : WithinLimits (temporaryPath v path) := by
  obtain ⟨n, hn', hpath, hsibling, -, -⟩ := temporaryPath_spec h hp hn
  have hbytes := utf8ByteSize_temporaryName (hp.fileName?_eq hn.ne_dot hn.ne_dots) n
  have hwidth : (Decimal.padded 6 n).length = 6 := Decimal.length_padded (by decide) (by omega)
  have hlonger := utf8ByteSize_beside_le hp hn.ne_dot hsibling.ne_empty hsibling.slash
  rw [hpath, h.withinLimits_beside_iff hp hn.ne_dot hsibling]
  omega

end Temporary

/-! ### The steps of a replacement -/

section Replacement

variable {v w : View} {p q : Place} {e : Entry} {mode : Nat} {temporary path : String} {content : List UInt8}

theorem Staged.exists_rename (h : Staged v q mode content w) (ht : v.Reaches false temporary (.free q false))
    (hp : v.Reaches false path (.entry p e)) (he : e ≠ .directory) (hslash : endsInSlash path = false)
    (hdots : View.endsInDots temporary = false) (hdots' : View.endsInDots path = false) :
    ∃ w', w.rename temporary path = .ok w' := by
  have hr : resolve w.tree w.working false temporary = _ := h.reaches ht nofun
  have hr' : resolve w.tree w.working false path = _ := hp.mono h.extends
  have hqp : q ≠ p := by
    rintro rfl
    cases h.free.symm.trans (View.Reaches.found_in hp)
  refine ⟨{ w with tree := (w.tree.unlink q).set p (.file mode content) }, ?_⟩
  simp only [View.rename, hdots, hdots', Bool.or_self, hr, hr', hqp, if_false, Bool.false_eq_true]
  cases e with
  | directory => exact absurd rfl he
  | file | link | sink => simp [hslash]

theorem attempt_of_act {s : PlannedStep} (h : s.act v = .ok w) : attempt (noFaults 0) s v = .ok w :=
  attempt_eq_ok_iff.mpr ⟨rfl, h⟩

theorem failure?_of_act {s : PlannedStep} (rest : List PlannedStep) (h : s.act v = .ok w) :
    (run (noFaults 0) v (s :: rest)).failure? = (run (noFaults 0) w rest).failure? := by
  rw [run_of_ok rest (attempt_of_act h)]

theorem done_of_free (ht : v.Reaches false temporary (.free q false)) (hp : v.Reaches false path (.entry p e))
    (he : e ≠ .directory) (hslash : endsInSlash path = false) (hdots : View.endsInDots temporary = false)
    (hdots' : View.endsInDots path = false) (content : List UInt8) :
    (run (noFaults 0) v (replacingPlan temporary path content)).failure? = none := by
  have hcreate : v.createNew temporary privateMode = .ok { v with tree := v.tree.set q (.file privateMode []) } := by
    rw [View.createNew, ht]
  obtain ⟨r, hr, hempty⟩ := staged_of_createNew hcreate
  cases ht.symm.trans hr
  have hfilled := hempty.set privateMode content
  obtain ⟨u, hrename⟩ := (hfilled.set sharedMode content).exists_rename ht hp he hslash hdots hdots'
  rw [replacingPlan, failure?_of_act _ hcreate, failure?_of_act _ (hempty.write ht content), failure?_of_act _ rfl,
    failure?_of_act _ rfl, failure?_of_act _ (hfilled.setMode ht sharedMode), failure?_of_act _ hrename]
  rfl

theorem run_of_refused {error : IoError} (ht : resolve v.tree v.working false temporary = .error error)
    (content : List UInt8) :
    run (noFaults 0) v (replacingPlan temporary path content) = ⟨v, [v, v], some ⟨directoryOf path, error⟩⟩ := by
  have hcreate : v.createNew temporary privateMode = .error error := by
    rw [View.createNew, ht]
  rw [replacingPlan, run_of_error]
  · rfl
  · rw [attempt]
    dsimp only [noFaults]
    rw [hcreate]
    rfl

end Replacement

/-! ### The second write -/

section Again

variable {v w : View} {path name : String} {front : List Char} {p : Place} {e : Entry}

theorem endsInDots_eq (hp : EndsIn path front name) (hdot : name ≠ ".") (hdots : name ≠ "..") :
    View.endsInDots path = false := by
  rw [View.endsInDots, hp.namesOf_eq, List.getLast?_concat]
  simp [hdot, hdots]

/-- A file that is there is replaced if the temporary path is within limits, and otherwise stays as it is. -/
theorem write_again (h : v.Reaches true path (.entry p e)) (he : e ≠ .directory) (hroot : v.tree.Rooted v.working)
    (text : String) :
    (WithinLimits (temporaryPath v path) →
        (write noFaults v path text).failure? = none ∧ (write noFaults v path text).view.readText path = .ok text) ∧
      (¬WithinLimits (temporaryPath v path) →
        (write noFaults v path text).failure? = some ⟨directoryOf path, .invalidFilename⟩ ∧
          (write noFaults v path text).view = v) := by
  have hthere := View.exists?_of_reaches h
  obtain ⟨front, name, hp, hn⟩ := h.exists_name he hroot
  obtain ⟨n, -, hpath, hsibling, hfree, hrefused⟩ := temporaryPath_spec h hp hn
  refine ⟨fun hlimits => ?_, fun hlimits => ?_⟩
  · obtain ⟨q, ht⟩ := hfree hlimits
    obtain ⟨r, g, hr⟩ := h.unfollowed
    have hg := h.unfollowed_ne he hr
    have hdots : View.endsInDots (temporaryPath v path) = false := by
      obtain ⟨front', -, hbeside⟩ := exists_front_beside hp hn.ne_dot
      rw [hpath]
      exact endsInDots_eq (hbeside _ hsibling.ne_empty hsibling.slash) hsibling.ne_dot hsibling.ne_dots
    have hdone : (write noFaults v path text).failure? = none := by
      rw [write_of_exists hthere]
      exact done_of_free ht hr hg hp.endsInSlash_eq hdots (endsInDots_eq hp hn.ne_dot hn.ne_dots) _
    obtain ⟨-, hw⟩ := (write_spec hthere hr noFaults text).1 hdone
    exact ⟨hdone, (hw.renewed hr hg).readText (h.not_detours (h.isPlain he hroot) hr)⟩
  · rw [write_of_exists hthere, run_of_refused (hrefused hlimits)]
    exact ⟨rfl, rfl⟩

/-- What a first write leaves at its path is no directory, and its working directory is still there. -/
theorem exists_of_first_write {content : List UInt8} (hroot : v.tree.Rooted v.working)
    (hdone : (run (noFaults 0) v (directPlan path content)).failure? = none) :
    let w := (run (noFaults 0) v (directPlan path content)).view
    w.tree.Rooted w.working ∧ ∃ p e, w.Reaches true path (.entry p e) ∧ e ≠ .directory := by
  intro w
  -- the working directory is kept by making directories, and by each of the two writes behind that
  obtain ⟨x, hx, u, hu, hw⟩ := view_of_direct hdone
  have hworking : w.working = v.working :=
    (View.working_of_write hw).trans ((View.working_of_write hu).trans (extends_of_mem_approaches hx).working)
  refine ⟨?_, ?_⟩
  · rw [hworking]
    refine hroot.mono fun q hq => ?_
    have hq' := (extends_of_mem_approaches hx).keeps q _ hq
    exact View.keeps_directories_of_write hw q (View.keeps_directories_of_write hu q hq')
  · rcases View.write_cases hw with ⟨p, mode, hp, -⟩ | ⟨hsame, p, e, hp, he, -⟩
    · exact ⟨p, _, hp, nofun⟩
    · refine ⟨p, e, ?_, he⟩
      rw [show w = u from hsame]
      exact hp

end Again

/-- A file that was just made is replaced by the second write if the temporary path is within limits, and otherwise
stays as it is. The temporary path adds eight bytes to the name, or more if a million files are there: a name so long
that this is too much can be made and not written again, and with any shorter name in a path not close to its own limit,
the second write is done. -/
theorem second_write_needs_room_for_temporary_name (v : View) (path first second : String)
    (hroot : v.tree.Rooted v.working) (hmissing : v.exists? path = false)
    (hdone : (write noFaults v path first).failure? = none) :
    let w := (write noFaults v path first).view
    let r := write noFaults w path second
    (r.failure? = none ↔ WithinLimits (temporaryPath w path)) ∧
      (r.failure? = none → r.view.readText path = .ok second) ∧
      (r.failure? ≠ none → r.failure? = some ⟨directoryOf path, .invalidFilename⟩ ∧ r.view = w) ∧
      ∃ name, Path.fileName? path = some name ∧ name.utf8ByteSize ≤ nameLimit ∧
        (nameLimit < name.utf8ByteSize + 8 → r.failure? ≠ none) ∧
        (name.utf8ByteSize + 8 ≤ nameLimit → path.utf8ByteSize + 10 < pathLimit → w.tree.entries.length < 10 ^ 6 →
          r.failure? = none) := by
  intro w r
  have hfirst := write_of_missing hmissing noFaults first
  obtain ⟨hw, p, e, hp, he⟩ : w.tree.Rooted w.working ∧ ∃ p e, w.Reaches true path (.entry p e) ∧ e ≠ .directory := by
    rw [hfirst] at hdone
    rw [show w = _ from congrArg WriteRun.view hfirst]
    exact exists_of_first_write hroot hdone
  obtain ⟨hwithin, hbeyond⟩ := write_again hp he hw second
  obtain ⟨front, name, hends, hname⟩ := hp.exists_name he hw
  have hiff : r.failure? = none ↔ WithinLimits (temporaryPath w path) := by
    refine ⟨fun hnone => ?_, fun hlimits => (hwithin hlimits).1⟩
    by_contra hlimits
    cases hnone.symm.trans (hbeyond hlimits).1
  refine ⟨hiff, fun hnone => (hwithin (hiff.mp hnone)).2, fun hsome => hbeyond fun h => hsome (hiff.mpr h), name,
    hends.fileName?_eq hname.ne_dot hname.ne_dots, hname.short, fun hlong hnone => ?_, fun hroom hpathRoom hfew => ?_⟩
  · exact not_withinLimits_of_long hp hends hname hlong (hiff.mp hnone)
  · exact hiff.mpr (withinLimits_of_room hp hends hname hroom hpathRoom hfew)

/-- A file is made in a new directory and written again. -/
theorem second_write_in_new_directory :
    let v : View := ⟨⟨[]⟩, []⟩
    let r := write noFaults (write noFaults v "d/o" "1").view "d/o" "2"
    (v.tree.Rooted v.working ∧ v.exists? "d/o" = false ∧ (write noFaults v "d/o" "1").failure? = none) ∧
      r.failure? = none ∧ r.view.readText "d/o" = .ok "2" := by
  intro v r
  have hroot : v.tree.Rooted v.working := .root v.tree
  have hmissing : v.exists? "d/o" = false := by decide +kernel
  have hdone : (write noFaults v "d/o" "1").failure? = none := by decide +kernel
  obtain ⟨-, hreads, -, name, hname, -, -, hroom⟩ :=
    second_write_needs_room_for_temporary_name v "d/o" "1" "2" hroot hmissing hdone
  have ho : Path.fileName? "d/o" = some "o" := by decide +kernel
  obtain rfl : "o" = name := Option.some.inj (ho.symm.trans hname)
  have hagain : r.failure? = none := hroom (by decide) (by decide) (by decide +kernel)
  exact ⟨⟨hroot, hmissing, hdone⟩, hagain, hreads hagain⟩

section Name

variable {v : View} {name : String}

theorem reaches_of_free_name (hs : IsSibling name) (hshort : name.utf8ByteSize ≤ nameLimit)
    (hworking : v.tree.get? v.working = some .directory) (hfree : v.tree.get? (v.working ++ [name]) = none)
    (last : Bool) : v.Reaches last name (.free (v.working ++ [name]) false) := by
  have hlimit : ¬pathLimit ≤ name.utf8ByteSize := by
    rw [pathLimit]
    rw [nameLimit] at hshort
    omega
  rw [View.Reaches, hs.endsIn.resolve_eq hs.zero, if_neg hlimit]
  exact follow_free hworking ⟨hs.ne_dot, hs.ne_dots, hshort⟩ hfree

theorem directoryOf_name (hs : IsSibling name) : directoryOf name = "." := by
  rw [directoryOf, hs.endsIn.parent?_eq hs.ne_dot]
  rfl

theorem makeDirectories_dot (hworking : v.tree.get? v.working = some .directory) (fuel : Nat) :
    v.makeDirectories (fuel + 1) "." = .ok v := by
  have hnames : namesOf "." = ["."] := by decide +kernel
  have hdot (last : Bool) : resolve v.tree v.working last "." = .ok (.entry v.working .directory) := by
    rw [resolve, if_neg (by decide), if_neg (by decide), if_neg (by decide), if_neg (by decide), hnames]
    exact (follow_dot hworking).trans (follow_nil hworking fun _ => rfl)
  have hthere : v.makeDirectory "." = .error .alreadyExists := by
    rw [View.makeDirectory, hdot]
  have hdirectory : v.isDirectory "." = true := by
    rw [View.isDirectory, View.entry, hdot]
  rw [View.makeDirectories, View.directoriesMade, if_neg (by decide), hthere]
  simp [hdirectory]

/-- A name of more than 247 bytes can be made in the working directory, and then it stays as it is. -/
theorem long_name_is_written_once (hs : IsSibling name) (hshort : name.utf8ByteSize ≤ nameLimit)
    (hlong : nameLimit < name.utf8ByteSize + 8) (hroot : v.tree.Rooted v.working)
    (hfree : v.tree.get? (v.working ++ [name]) = none) (first second : String) :
    let w := (write noFaults v name first).view
    v.exists? name = false ∧ (write noFaults v name first).failure? = none ∧
      (write noFaults w name second).failure? = some ⟨".", .invalidFilename⟩ ∧
      (write noFaults w name second).view.readText name = .ok first := by
  intro w
  have hreach := reaches_of_free_name hs hshort hroot.get?_eq hfree
  have hmissing : v.exists? name = false := by
    rw [View.exists?, View.entry, hreach true]
    rfl
  have hfirst := write_of_missing hmissing noFaults first
  have hmade : v.makeDirectories ((directoryOf name).length + 1) (directoryOf name) = .ok v := by
    rw [directoryOf_name hs]
    exact makeDirectories_dot hroot.get?_eq _
  obtain ⟨u, hcreate⟩ : ∃ u, v.write name [] = .ok u := by
    rw [View.write, View.openForWriting, hreach true]
    exact ⟨_, rfl⟩
  obtain ⟨x, hfill, hgrown⟩ := (growing_of_write List.mem_cons_self hmissing hcreate).write (Utf8.encode first)
  have hw : w = x := by
    rw [show w = _ from congrArg WriteRun.view hfirst, directPlan, view_of_ok _ (attempt_of_act hmade),
      view_of_ok _ (attempt_of_act hcreate), view_of_ok _ (attempt_of_act hfill)]
    rfl
  obtain ⟨p, e, hp, hcontent⟩ := View.readBytes_eq_ok_iff.mp hgrown.readBytes
  have hroot' : x.tree.Rooted x.working := by
    rw [hgrown.extends.working]
    exact hroot.mono fun q => hgrown.extends.keeps q _
  have hlimits := not_withinLimits_of_long hp hs.endsIn ⟨hs.ne_dot, hs.ne_dots, hshort⟩ hlong
  obtain ⟨hrefused, hkept⟩ :=
    (write_again hp (View.isPlain_of_contentOf? hcontent).1 hroot' second).2 hlimits
  rw [hw, hrefused, hkept, directoryOf_name hs]
  refine ⟨hmissing, ?_, rfl, ?_⟩
  · rw [hfirst, directPlan, failure?_of_act _ hmade, failure?_of_act _ hcreate, failure?_of_act _ hfill]
    rfl
  · exact View.readText_eq_ok_iff.mpr ⟨p, e, _, hp, hcontent, Utf8.decode?_encode first⟩

end Name

/-- A file with a name of 250 bytes is made, and the second write is refused. -/
theorem second_write_need_not_be_done :
    let v : View := ⟨⟨[]⟩, []⟩
    let path := String.ofList (List.replicate 250 'a')
    let w := (write noFaults v path "1").view
    let r := write noFaults w path "2"
    v.exists? path = false ∧ (write noFaults v path "1").failure? = none ∧
      r.failure? = some ⟨".", .invalidFilename⟩ ∧ r.view.readText path = .ok "1" := by
  intro v path
  have hlist : path.toList = List.replicate 250 'a' := String.toList_ofList
  have hbytes : path.utf8ByteSize = 250 := (Utf8.utf8ByteSize_ofList _).trans (by decide +kernel)
  have hne (other : String) (hother : other.utf8ByteSize < 250) : path ≠ other := by
    rintro heq
    rw [← heq, hbytes] at hother
    omega
  have hother {c : Char} (hc : c ≠ 'a') : c ∉ path.toList := by
    rw [hlist]
    exact fun hmem => hc (List.eq_of_mem_replicate hmem)
  have hsibling : IsSibling path :=
    ⟨hne _ (by decide), hne _ (by decide), hne _ (by decide), hother (by decide), hother (by decide)⟩
  exact long_name_is_written_once hsibling (by rw [hbytes]; decide) (by rw [hbytes]; decide) (.root v.tree) rfl "1" "2"

end AtomicWrite

end Stencil.Filesystem
