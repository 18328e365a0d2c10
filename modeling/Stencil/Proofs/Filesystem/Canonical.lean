import Stencil.Proofs.Filesystem.Siblings

set_option autoImplicit false
set_option relaxedAutoImplicit false

/-!
Paths without links and relative parts. Main statement: the path of the entry that a path leads to leads to the same
entry, from wherever it is followed.
-/

namespace Stencil.Filesystem

/-- A name that can be written into a path. -/
structure IsWritten (n : String) : Prop where
  ne_empty : n ≠ ""
  slash : '/' ∉ n.toList
  zero : '\x00' ∉ n.toList

/-- A name that an entry of a directory can have. -/
structure IsProper (n : String) : Prop extends IsName n, IsWritten n

/-- An entry that is there and no link, with directories above it all the way to the root. -/
structure Stands (t : Tree) (p : Place) (e : Entry) : Prop where
  get?_eq : t.get? p = some e
  above : t.Rooted p.dropLast
  names : ∀ n ∈ p, IsProper n
  no_link : ∀ target, e ≠ .link target

/-- Files as a file system holds them: the working directory is one, and a path can be read off every link. -/
structure View.Sound (v : View) : Prop where
  working : v.tree.Rooted v.working
  names : ∀ n ∈ v.working, IsProper n
  links : ∀ p target, v.tree.get? p = some (.link target) → '\x00' ∉ target.toList

theorem of_mem_splitOn {xs : List Char} {x : Char} {l : List Char} (h : l ∈ xs.splitOn x) : x ∉ l ∧ l ⊆ xs := by
  induction xs generalizing l with
  | nil =>
    rw [List.splitOn_nil, List.mem_singleton] at h
    simp [h]
  | cons y ys ih =>
    rw [List.splitOn_cons_eq_if_modifyHead] at h
    split at h
    · rcases List.mem_cons.mp h with rfl | h
      · simp
      · exact ⟨(ih h).1, List.Subset.trans (ih h).2 (List.subset_cons_self y ys)⟩
    · next hy =>
      obtain ⟨a, r, hsplit⟩ := List.exists_cons_of_ne_nil (List.splitOn_ne_nil x ys)
      rw [hsplit, List.modifyHead_cons] at h
      rw [hsplit] at ih
      rcases List.mem_cons.mp h with rfl | h
      · obtain ⟨hnot, hsub⟩ := ih List.mem_cons_self
        refine ⟨?_, List.cons_subset_cons y hsub⟩
        rw [List.mem_cons, not_or]
        exact ⟨fun heq => hy (beq_iff_eq.mpr heq.symm), hnot⟩
      · obtain ⟨hnot, hsub⟩ := ih (List.mem_cons_of_mem a h)
        exact ⟨hnot, List.Subset.trans hsub (List.subset_cons_self y ys)⟩

theorem isWritten_of_mem_namesOf {path n : String} (hzero : '\x00' ∉ path.toList) (h : n ∈ namesOf path) :
    IsWritten n := by
  obtain ⟨hpiece, hne⟩ := List.mem_filter.mp h
  obtain ⟨l, hl, rfl⟩ := List.mem_map.mp hpiece
  obtain ⟨hslash, hsub⟩ := of_mem_splitOn hl
  refine ⟨by simpa using hne, ?_, ?_⟩
  · rwa [String.toList_ofList]
  · rw [String.toList_ofList]
    exact fun hmem => hzero (hsub hmem)

namespace Stands

variable {t : Tree} {p : Place} {n : String} {e : Entry}

theorem root (t : Tree) : Stands t [] .directory := ⟨rfl, .root t, nofun, nofun⟩

theorem rooted (h : Stands t p .directory) : t.Rooted p := by
  rcases List.eq_nil_or_concat p with rfl | ⟨q, n, rfl⟩
  · exact .root t
  · have habove := h.above
    have hget := h.get?_eq
    rw [List.concat_eq_append] at habove hget ⊢
    rw [List.dropLast_concat] at habove
    exact habove.child hget

theorem of_rooted (h : t.Rooted p) (hnames : ∀ n ∈ p, IsProper n) : Stands t p .directory :=
  ⟨h.get?_eq, h.dropLast, hnames, nofun⟩

theorem dropLast (h : Stands t p .directory) : Stands t p.dropLast .directory :=
  of_rooted h.above fun n hn => h.names n (List.mem_of_mem_dropLast hn)

theorem child (h : Stands t p .directory) (hn : IsProper n) (he : t.get? (p ++ [n]) = some e)
    (hlink : ∀ target, e ≠ .link target) : Stands t (p ++ [n]) e where
  get?_eq := he
  above := by
    rw [List.dropLast_concat]
    exact h.rooted
  names m hm := by
    rcases List.mem_append.mp hm with hm | hm
    · exact h.names m hm
    · exact List.mem_singleton.mp hm ▸ hn
  no_link := hlink

theorem baseOf (h : Stands t p .directory) (target : String) : Stands t (baseOf target p) .directory := by
  rw [Filesystem.baseOf]
  split
  · exact root t
  · exact h

end Stands

namespace Walk

variable {t : Tree} {d : Bool} {links : Nat} {here p : Place} {names : List String} {e : Entry}

theorem stands (h : Walk t true links here d names (.entry p e))
    (hlinks : ∀ q target, t.get? q = some (.link target) → '\x00' ∉ target.toList)
    (hhere : ∃ x, Stands t here x) (hnames : ∀ n ∈ names, IsWritten n) : Stands t p e := by
  have hdirectory {q : Place} (hq : t.get? q = some .directory) (hs : ∃ x, Stands t q x) : Stands t q .directory := by
    obtain ⟨x, hx⟩ := hs
    cases Option.some.inj (hq.symm.trans hx.get?_eq)
    exact hx
  generalize hf : Found.entry p e = f at h
  induction h with
  | arrive he =>
    cases hf
    obtain ⟨x, hx⟩ := hhere
    cases Option.some.inj (he.symm.trans hx.get?_eq)
    exact hx
  | free => cases hf
  | link _ _ _ hl => cases hl
  | stay _ _ _ ih => exact ih hhere (List.forall_mem_cons.mp hnames).2 hf
  | rise hh _ _ ih => exact ih ⟨_, (hdirectory hh hhere).dropLast⟩ (List.forall_mem_cons.mp hnames).2 hf
  | @jump links here d n target rest f hh _ ht _ _ ih =>
    refine ih ⟨_, (hdirectory hh hhere).baseOf target⟩ (fun m hm => ?_) hf
    rcases List.mem_append.mp hm with hm | hm
    · exact isWritten_of_mem_namesOf (hlinks _ _ ht) hm
    · exact hnames m (List.mem_cons_of_mem n hm)
  | enter hh hn he hl _ ih =>
    obtain ⟨hwritten, hrest⟩ := List.forall_mem_cons.mp hnames
    exact ih ⟨_, (hdirectory hh hhere).child ⟨hn, hwritten⟩ he hl⟩ hrest hf

theorem of_stands (h : Stands t p e) (last : Bool) (links : Nat) {above rest : Place} (hp : p = above ++ rest)
    (hd : d = true → e = .directory) : Walk t last links above d rest (.entry p e) := by
  induction rest generalizing above with
  | nil =>
    rw [List.append_nil] at hp
    subst hp
    exact .arrive h.get?_eq hd
  | cons n rest ih =>
    have hdirectory {q : Place} (hq : q <+: p.dropLast) : t.get? q = some .directory :=
      h.above q ((List.mem_inits q _).mpr hq)
    have hname : IsProper n := h.names n (by simp [hp])
    have habove : t.get? above = some .directory := by
      refine hdirectory ?_
      rw [hp, List.dropLast_append_of_ne_nil (List.cons_ne_nil n rest)]
      exact List.prefix_append above _
    have hwalk := @ih (above ++ [n]) (by simp [hp])
    rcases List.eq_nil_or_concat rest with rfl | ⟨front, m, rfl⟩
    · refine .enter habove hname.toIsName ?_ h.no_link hwalk
      rw [← hp]
      exact h.get?_eq
    · refine .enter habove hname.toIsName (hdirectory ?_) nofun hwalk
      rw [hp, List.concat_eq_append, ← List.cons_append, ← List.append_assoc, List.dropLast_concat]
      exact ⟨front, by simp⟩

end Walk

section PathOf

variable {p : Place}

theorem toList_pathOf (p : Place) : (pathOf p).toList = '/' :: ['/'].intercalate (p.map String.toList) := by
  simp [pathOf, String.toList_intercalate]

theorem isAbsolute_pathOf (p : Place) : Path.isAbsolute (pathOf p) = true := by
  rw [Path.isAbsolute, toList_pathOf]
  rfl

theorem namesOf_pathOf (h : ∀ n ∈ p, IsWritten n) : namesOf (pathOf p) = p := by
  change namesIn (pathOf p).toList = p
  rw [toList_pathOf, ← List.nil_append ('/' :: _), namesIn_append]
  rcases eq_or_ne p [] with rfl | hp
  · decide
  · have hsplit : (['/'].intercalate (p.map String.toList)).splitOn '/' = p.map String.toList := by
      refine List.splitOn_intercalate '/' ?_ (by simpa using hp)
      intro l hl
      obtain ⟨n, hn, rfl⟩ := List.mem_map.mp hl
      exact (h n hn).slash
    have hnames : namesIn (['/'].intercalate (p.map String.toList)) = p := by
      rw [namesIn, hsplit, List.map_map, List.filter_eq_self.mpr]
      · simp [Function.comp_def]
      · intro n hn
        obtain ⟨m, hm, rfl⟩ := List.mem_map.mp hn
        simpa using (h m hm).ne_empty
    rw [hnames]
    rfl

theorem toList_pathOf_of_ne_nil (hp : p ≠ []) : (pathOf p).toList = p.flatMap fun n => '/' :: n.toList := by
  rw [toList_pathOf]
  induction p with
  | nil => exact absurd rfl hp
  | cons n rest ih =>
    cases rest with
    | nil => simp
    | cons m rest =>
      rw [List.flatMap_cons, ← ih (List.cons_ne_nil m rest)]
      simp [List.intercalate]

theorem mem_pathOf_iff (hp : p ≠ []) (c : Char) : c ∈ (pathOf p).toList ↔ c = '/' ∨ ∃ n ∈ p, c ∈ n.toList := by
  rw [toList_pathOf_of_ne_nil hp]
  obtain ⟨n, rest, rfl⟩ := List.exists_cons_of_ne_nil hp
  constructor
  · intro h
    obtain ⟨m, hm, hc⟩ := List.mem_flatMap.mp h
    rcases List.mem_cons.mp hc with hc | hc
    · exact .inl hc
    · exact .inr ⟨m, hm, hc⟩
  · rintro (rfl | ⟨m, hm, hc⟩)
    · exact List.mem_flatMap.mpr ⟨n, List.mem_cons_self, List.mem_cons_self⟩
    · exact List.mem_flatMap.mpr ⟨m, hm, List.mem_cons_of_mem _ hc⟩

theorem zero_notMem_pathOf (h : ∀ n ∈ p, IsWritten n) : '\x00' ∉ (pathOf p).toList := by
  rcases eq_or_ne p [] with rfl | hp
  · decide
  · rw [mem_pathOf_iff hp]
    rintro (hc | ⟨n, hn, hc⟩)
    · exact absurd hc (by decide)
    · exact (h n hn).zero hc

theorem endsInSlash_pathOf (h : ∀ n ∈ p, IsWritten n) (hp : p ≠ []) : endsInSlash (pathOf p) = false := by
  obtain ⟨q, n, rfl⟩ : ∃ q n, p = q ++ [n] := ⟨_, _, (List.dropLast_concat_getLast hp).symm⟩
  have hn : IsWritten n := h n (by simp)
  have hlast : EndsIn (pathOf (q ++ [n])) ((q.flatMap fun n => '/' :: n.toList) ++ ['/']) n := by
    refine ⟨?_, .inr ⟨_, rfl⟩, hn.ne_empty, hn.slash⟩
    rw [toList_pathOf_of_ne_nil hp]
    simp
  exact hlast.endsInSlash_eq

end PathOf

namespace View

variable {v : View} {path : String} {p : Place} {e : Entry}

theorem Reaches.short {last : Bool} {f : Found} (h : v.Reaches last path f) : path.utf8ByteSize < pathLimit := by
  have hzero := h.zero_notMem
  have hne := h.ne_empty
  by_contra hlong
  rw [Reaches, resolve, if_neg hzero, if_neg (by simpa using hne), if_pos (Nat.not_lt.mp hlong)] at h
  cases h

theorem Sound.stands (hv : v.Sound) (h : v.Reaches true path (.entry p e)) : Stands v.tree p e := by
  refine h.walk.1.stands hv.links ?_ fun n hn => isWritten_of_mem_namesOf h.zero_notMem hn
  split
  · exact ⟨_, .root v.tree⟩
  · exact ⟨_, .of_rooted hv.working hv.names⟩

theorem reaches_pathOf (h : Stands v.tree p e) (hshort : (pathOf p).utf8ByteSize < pathLimit) :
    v.Reaches true (pathOf p) (.entry p e) := by
  have hwritten : ∀ n ∈ p, IsWritten n := fun n hn => (h.names n hn).toIsWritten
  have hne : (pathOf p).isEmpty = false := by
    rw [← Bool.not_eq_true, String.isEmpty_iff, ← String.toList_inj, toList_pathOf]
    simp
  rw [Reaches, resolve, if_neg (zero_notMem_pathOf hwritten), if_neg (by simp [hne]), if_neg (by omega),
    isAbsolute_pathOf, if_pos rfl, namesOf_pathOf hwritten]
  refine (Walk.of_stands h true linkLimit (List.nil_append p).symm fun hslash => ?_).follow_eq
  rcases eq_or_ne p [] with rfl | hp
  · exact (Option.some.inj h.get?_eq).symm
  · rw [endsInSlash_pathOf hwritten hp] at hslash
    cases hslash

theorem canonical_of_reaches (h : v.Reaches true path (.entry p e)) : v.canonical path =
    if pathLimit ≤ (pathOf p).utf8ByteSize then .error .invalidFilename else .ok (pathOf p) := by
  rw [canonical, entry_eq_ok_iff.mpr h]

theorem Sound.reaches_canonical (hv : v.Sound) (h : v.Reaches true path (.entry p e)) {path' : String}
    (hpath : v.canonical path = .ok path') (w : View) (hw : w.tree = v.tree) :
    path' = pathOf p ∧ w.Reaches true path' (.entry p e) := by
  rw [canonical_of_reaches h] at hpath
  split at hpath
  · cases hpath
  · next hshort =>
    cases hpath
    exact ⟨rfl, reaches_pathOf (hw ▸ hv.stands h) (Nat.lt_of_not_le hshort)⟩

end View

end Stencil.Filesystem
