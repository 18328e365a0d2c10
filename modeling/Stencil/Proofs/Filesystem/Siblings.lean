import Mathlib.Data.List.Infix
import Stencil.Proofs.Filesystem.Reach
import Stencil.Proofs.Filesystem.Written

set_option autoImplicit false
set_option relaxedAutoImplicit false

/-!
Names beside the one that a path ends in. Main statements: where a path leads anywhere, the other names that are
written in its directory are looked for in one directory of the files, unless such a name or its path is too long; and
a path to something else than a directory ends in the name of an entry, and leads to no link.
-/

namespace Stencil.Filesystem

def Tree.Rooted (t : Tree) (p : Place) : Prop := ∀ q ∈ p.inits, t.get? q = some .directory

instance (t : Tree) (p : Place) : Decidable (t.Rooted p) := inferInstanceAs (Decidable (∀ q ∈ p.inits, _))

namespace Tree.Rooted

variable {t t' : Tree} {p : Place} {n : String}

theorem root (t : Tree) : t.Rooted [] := by simp [Rooted, get?]

theorem get?_eq (h : t.Rooted p) : t.get? p = some .directory :=
  h p ((List.mem_inits p p).mpr (List.prefix_refl p))

theorem dropLast (h : t.Rooted p) : t.Rooted p.dropLast := by
  intro q hq
  exact h q ((List.mem_inits q p).mpr (((List.mem_inits q _).mp hq).trans (List.dropLast_prefix p)))

theorem child (h : t.Rooted p) (hn : t.get? (p ++ [n]) = some .directory) : t.Rooted (p ++ [n]) := by
  intro q hq
  rcases List.prefix_concat_iff.mp ((List.mem_inits q _).mp hq) with rfl | hq
  · exact hn
  · exact h q ((List.mem_inits q p).mpr hq)

theorem baseOf (h : t.Rooted p) (target : String) : t.Rooted (baseOf target p) := by
  rw [Filesystem.baseOf]
  split
  · exact root t
  · exact h

theorem mono (h : t.Rooted p) (hk : ∀ q, t.get? q = some .directory → t'.get? q = some .directory) : t'.Rooted p :=
  fun q hq => hk q (h q hq)

end Tree.Rooted

section Walk

variable {t : Tree} {last d : Bool} {links : Nat} {here : Place} {n : String} {above names rest : List String}
  {f : Found}

/-- Names lead to a directory, and whatever follows them is followed from there. -/
structure LeadsTo (t : Tree) (links : Nat) (here : Place) (above : List String) (k : Nat) (top : Place) : Prop where
  get?_eq : t.get? top = some .directory
  rooted : t.Rooted here → t.Rooted top
  follow_eq : ∀ last d n names,
    follow t last links here d (above ++ n :: names) = follow t last k top d (n :: names)

theorem LeadsTo.nil (hh : t.get? here = some .directory) : LeadsTo t links here [] links here :=
  ⟨hh, id, fun _ _ _ _ => rfl⟩

theorem Walk.exists_leadsTo (h : Walk t last links here d (above ++ n :: rest) f) :
    ∃ k top, LeadsTo t links here above k top := by
  generalize hnames : above ++ n :: rest = names at h
  induction h generalizing above with
  | arrive => simp at hnames
  | stay hh hdot _ ih =>
    cases above with
    | nil => exact ⟨_, _, .nil hh⟩
    | cons x above =>
      obtain ⟨rfl, hrest⟩ := List.cons.inj hnames
      obtain ⟨k, top, htop⟩ := ih hrest
      subst hdot
      exact ⟨k, top, htop.get?_eq, htop.rooted,
        fun last d m names => (follow_dot hh).trans (htop.follow_eq last d m names)⟩
  | rise hh hdots _ ih =>
    cases above with
    | nil => exact ⟨_, _, .nil hh⟩
    | cons x above =>
      obtain ⟨rfl, hrest⟩ := List.cons.inj hnames
      obtain ⟨k, top, htop⟩ := ih hrest
      subst hdots
      exact ⟨k, top, htop.get?_eq, fun hr => htop.rooted hr.dropLast,
        fun last d m names => (follow_dots hh).trans (htop.follow_eq last d m names)⟩
  | free hh =>
    cases above with
    | nil => exact ⟨_, _, .nil hh⟩
    | cons x above => simp at hnames
  | link hh =>
    cases above with
    | nil => exact ⟨_, _, .nil hh⟩
    | cons x above => simp at hnames
  | @jump _ here _ _ target rest' _ hh hn ht _ _ ih =>
    cases above with
    | nil => exact ⟨_, _, .nil hh⟩
    | cons x above =>
      obtain ⟨rfl, hrest⟩ := List.cons.inj hnames
      have hbehind : (namesOf target ++ above) ++ n :: rest = namesOf target ++ rest' := by
        rw [List.append_assoc]
        exact congrArg _ hrest
      obtain ⟨k, top, htop⟩ := ih hbehind
      refine ⟨k, top, htop.get?_eq, fun hr => htop.rooted (hr.baseOf target), fun last d m names => ?_⟩
      have hmore : (above ++ m :: names).isEmpty = false := by simp
      rw [List.cons_append, follow_jump hh hn ht (.inl (by simp)), hmore, ← htop.follow_eq, List.append_assoc]
      simp
  | @enter _ here _ x _ _ _ hh hn he hl hwalk ih =>
    cases above with
    | nil => exact ⟨_, _, .nil hh⟩
    | cons x above =>
      obtain ⟨rfl, hrest⟩ := List.cons.inj hnames
      obtain ⟨k, top, htop⟩ := ih hrest
      have hdir : t.get? (here ++ [x]) = some .directory := by
        obtain ⟨m, names, hm⟩ := List.exists_cons_of_ne_nil (l := above ++ n :: rest) (by simp)
        exact (hrest.symm.trans hm ▸ hwalk).get?_here
      exact ⟨k, top, htop.get?_eq, fun hr => htop.rooted (hr.child hdir),
        fun last d m names => (follow_enter hh hn he hl).trans (htop.follow_eq last d m names)⟩

theorem Walk.ne_link {p : Place} {e : Entry} (h : Walk t true links here d names (.entry p e))
    (hstart : t.Rooted here ∨ names = [] ∧ ∀ target, t.get? here ≠ some (.link target)) (target : String) :
    e ≠ .link target := by
  generalize hf : Found.entry p e = f at h
  have hroot {n : String} {rest : List String} {here : Place}
      (hs : t.Rooted here ∨ n :: rest = [] ∧ ∀ target, t.get? here ≠ some (.link target)) : t.Rooted here :=
    hs.resolve_right fun hs => List.cons_ne_nil n rest hs.1
  induction h with
  | arrive he _ =>
    cases hf
    rintro rfl
    rcases hstart with hr | ⟨-, hl⟩
    · cases hr.get?_eq.symm.trans he
    · exact hl target he
  | free => cases hf
  | link _ _ _ hl => cases hl
  | stay _ _ _ ih => exact ih (.inl (hroot hstart)) hf
  | rise _ _ _ ih => exact ih (.inl (hroot hstart).dropLast) hf
  | jump _ _ _ _ _ ih => exact ih (.inl ((hroot hstart).baseOf _)) hf
  | @enter links here d n e rest f _ _ he hl h ih =>
    cases rest with
    | nil => exact ih (.inr ⟨rfl, fun target ht => hl target (Option.some.inj (he.symm.trans ht))⟩) hf
    | cons m rest => exact ih (.inl ((hroot hstart).child h.get?_here)) hf

theorem Walk.short (h : Walk t last links here d names f) : ∀ n ∈ names, n.utf8ByteSize ≤ nameLimit := by
  have hpoints : ".".utf8ByteSize ≤ nameLimit ∧ "..".utf8ByteSize ≤ nameLimit := by decide
  induction h with
  | arrive => exact fun _ hmem => absurd hmem List.not_mem_nil
  | stay _ hn _ ih => exact List.forall_mem_cons.mpr ⟨hn ▸ hpoints.1, ih⟩
  | rise _ hn _ ih => exact List.forall_mem_cons.mpr ⟨hn ▸ hpoints.2, ih⟩
  | free _ hn _ => exact List.forall_mem_singleton.mpr hn.short
  | link _ hn _ _ => exact List.forall_mem_singleton.mpr hn.short
  | jump _ hn _ _ _ ih => exact List.forall_mem_cons.mpr ⟨hn.short, fun m hm => ih m (List.mem_append_right _ hm)⟩
  | enter _ hn _ _ _ ih => exact List.forall_mem_cons.mpr ⟨hn.short, ih⟩

theorem Walk.isName_last {p : Place} {e : Entry} (h : Walk t last links here d (above ++ [n]) (.entry p e))
    (hroot : t.Rooted here) (he : e ≠ .directory) : IsName n := by
  obtain ⟨k, top, htop⟩ := h.exists_leadsTo
  have hend (q : Place) (hq : t.get? q = some .directory) : follow t last k q d [] ≠ .ok (.entry p e) := by
    rw [follow_nil hq fun _ => rfl]
    intro heq
    cases heq
    exact he rfl
  have hlast := (htop.follow_eq last d n []).symm.trans h.follow_eq
  refine ⟨?_, ?_, h.short n (by simp)⟩
  · rintro rfl
    exact hend top htop.get?_eq ((follow_dot htop.get?_eq).symm.trans hlast)
  · rintro rfl
    exact hend _ (htop.rooted hroot).dropLast.get?_eq ((follow_dots htop.get?_eq).symm.trans hlast)

theorem walk_dot_iff :
    Walk t last links here d (above ++ "." :: n :: rest) f ↔ Walk t last links here d (above ++ n :: rest) f := by
  have hsame (h : ∃ m names, Walk t last links here d (above ++ m :: names) f) :
      follow t last links here d (above ++ "." :: n :: rest) = follow t last links here d (above ++ n :: rest) := by
    obtain ⟨m, names, h⟩ := h
    obtain ⟨k, top, htop⟩ := h.exists_leadsTo
    rw [htop.follow_eq, htop.follow_eq, follow_dot htop.get?_eq]
  constructor
  · exact fun h => follow_eq_ok_iff.mp ((hsame ⟨_, _, h⟩).symm.trans h.follow_eq)
  · exact fun h => follow_eq_ok_iff.mp ((hsame ⟨_, _, h⟩).trans h.follow_eq)

theorem walk_stepsOf_iff :
    Walk t last links here d (stepsOf above ++ [n]) f ↔ Walk t last links here d (above ++ [n]) f := by
  have hbehind (before : List String) :
      Walk t last links here d (before ++ (stepsOf above ++ [n])) f ↔
        Walk t last links here d (before ++ (above ++ [n])) f := by
    induction above generalizing before with
    | nil => rfl
    | cons x above ih =>
      by_cases hx : x = "."
      · subst hx
        obtain ⟨m, names, hm⟩ := List.exists_cons_of_ne_nil (l := above ++ [n]) (by simp)
        rw [List.cons_append, hm, walk_dot_iff, ← hm, ← ih]
        rfl
      · have hkept : stepsOf (x :: above) = x :: stepsOf above := by simp [stepsOf, hx]
        rw [hkept, List.cons_append, List.cons_append, List.append_cons, List.append_cons before x (above ++ [n])]
        exact ih (before ++ [x])
  exact hbehind []

end Walk

def WithinLimits (path : String) : Prop :=
  path.utf8ByteSize < pathLimit ∧ ∀ n ∈ namesOf path, n.utf8ByteSize ≤ nameLimit

instance (path : String) : Decidable (WithinLimits path) := inferInstanceAs (Decidable (_ ∧ _))

/-- A name that can be written behind the directory of a path. -/
structure IsSibling (name : String) : Prop where
  ne_dot : name ≠ "."
  ne_dots : name ≠ ".."
  ne_empty : name ≠ ""
  slash : '/' ∉ name.toList
  zero : '\x00' ∉ name.toList

theorem IsSibling.endsIn {name : String} (h : IsSibling name) : EndsIn name [] name :=
  ⟨rfl, .inl rfl, h.ne_empty, h.slash⟩

def foundAt (t : Tree) (p : Place) : Found :=
  match t.get? p with
  | none => .free p false
  | some e => .entry p e

theorem follow_eq_foundAt {t : Tree} {top : Place} {n : String} (k : Nat) (htop : t.get? top = some .directory)
    (hn : IsName n) : follow t false k top false [n] = .ok (foundAt t (top ++ [n])) := by
  rw [foundAt]
  cases he : t.get? (top ++ [n]) with
  | none => exact follow_free htop hn he
  | some e =>
    by_cases hl : ∃ target, e = .link target
    · obtain ⟨target, rfl⟩ := hl
      exact follow_link htop hn he
    · exact (follow_enter htop hn he (not_exists.mp hl)).trans (follow_nil he nofun)

theorem EndsIn.resolve_eq {path name : String} {front : List Char} (hp : EndsIn path front name)
    (hzero : '\x00' ∉ path.toList) (t : Tree) (working : Place) (last : Bool) :
    resolve t working last path =
      if pathLimit ≤ path.utf8ByteSize then .error .invalidFilename
      else
        follow t last linkLimit (if front.head? == some '/' then [] else working) false (namesIn front ++ [name]) := by
  have hfilled : ¬path.isEmpty := by
    intro hempty
    have hlist := hp.eq
    rw [String.isEmpty_iff.mp hempty] at hlist
    simp [hp.name_ne] at hlist
  rw [resolve, if_neg hzero, if_neg hfilled, hp.isAbsolute_eq, hp.endsInSlash_eq, hp.namesOf_eq]

namespace View

open AtomicWrite

variable {v : View} {last : Bool} {path name : String} {front : List Char} {f : Found}

theorem Reaches.zero_notMem (h : Reaches v last path f) : '\x00' ∉ path.toList := by
  intro hmem
  rw [Reaches, resolve, if_pos hmem] at h
  cases h

theorem Reaches.ne_empty (h : Reaches v last path f) : path ≠ "" := by
  rintro rfl
  cases h

section Entries

variable {p : Place} {e : Entry}

theorem Reaches.isPlain (h : Reaches v true path (.entry p e)) (he : e ≠ .directory)
    (hroot : v.tree.Rooted v.working) : e.IsPlain :=
  ⟨he, h.walk.1.ne_link (.inl (hroot.baseOf path))⟩

theorem Reaches.exists_name (h : Reaches v last path (.entry p e)) (he : e ≠ .directory)
    (hroot : v.tree.Rooted v.working) : ∃ front name, EndsIn path front name ∧ IsName name := by
  have hwalk := h.walk.1
  have hslash : endsInSlash path = false := by
    cases hd : endsInSlash path with
    | false => rfl
    | true =>
      rw [hd] at hwalk
      exact absurd hwalk.eq_directory he
  obtain ⟨front, name, hp⟩ := EndsIn.exists_of_path h.ne_empty hslash
  rw [hp.namesOf_eq] at hwalk
  exact ⟨front, name, hp, hwalk.isName_last (hroot.baseOf path) he⟩

end Entries

theorem Reaches.exists_front (h : Reaches v last path f) (hp : EndsIn path front name) (hname : name ≠ ".") :
    ∃ front', SameFront front front' ∧
      (∀ other : String, other ≠ "" → '/' ∉ other.toList → EndsIn (beside path other) front' other) ∧
      Walk v.tree last linkLimit (if front'.head? == some '/' then [] else v.working) false
        (namesIn front' ++ [name]) f := by
  obtain ⟨front', hsame, hbeside⟩ := exists_front_beside hp hname
  have hwalk := h.walk.1
  rw [hp.isAbsolute_eq, hp.endsInSlash_eq, hp.namesOf_eq, ← walk_stepsOf_iff, ← hsame.steps, walk_stepsOf_iff,
    ← hsame.root] at hwalk
  exact ⟨front', hsame, hbeside, hwalk⟩

/-- A name beside that of a path is within limits if it is no longer than a name may be, and its path is not either. -/
theorem Reaches.withinLimits_beside_iff (h : Reaches v last path f) (hp : EndsIn path front name) (hname : name ≠ ".")
    {other : String} (ho : IsSibling other) :
    WithinLimits (beside path other) ↔
      (beside path other).utf8ByteSize < pathLimit ∧ other.utf8ByteSize ≤ nameLimit := by
  obtain ⟨front', -, hbeside, hwalk⟩ := h.exists_front hp hname
  rw [WithinLimits, (hbeside other ho.ne_empty ho.slash).namesOf_eq, List.forall_mem_append, List.forall_mem_singleton]
  exact and_congr_right fun _ => and_iff_right fun n hn => hwalk.short n (List.mem_append_left _ hn)

theorem Reaches.resolve_beside (h : Reaches v last path f) (hp : EndsIn path front name) (hname : name ≠ ".") :
    ∃ top, v.tree.get? top = some .directory ∧ ∀ other, IsSibling other →
      resolve v.tree v.working false (beside path other) =
        if WithinLimits (beside path other) then .ok (foundAt v.tree (top ++ [other]))
        else .error .invalidFilename := by
  obtain ⟨front', hsame, hbeside, hwalk⟩ := h.exists_front hp hname
  obtain ⟨k, top, htop⟩ := hwalk.exists_leadsTo
  refine ⟨top, htop.get?_eq, fun other ho => ?_⟩
  have hother := hbeside other ho.ne_empty ho.slash
  have hlimits := h.withinLimits_beside_iff hp hname ho
  have hzero : '\x00' ∉ (beside path other).toList := by
    rw [hother.eq, List.mem_append, not_or]
    refine ⟨fun hmem => ?_, ho.zero⟩
    rcases hsame.characters _ hmem with hmem | hmem | hmem
    · exact h.zero_notMem (by rw [hp.eq]; exact List.mem_append_left _ hmem)
    · cases hmem
    · cases hmem
  rw [hother.resolve_eq hzero, htop.follow_eq]
  by_cases hpath : pathLimit ≤ (beside path other).utf8ByteSize
  · rw [if_pos hpath, if_neg fun hw => Nat.not_lt.mpr hpath (hlimits.mp hw).1]
  · rw [if_neg hpath]
    by_cases hlength : other.utf8ByteSize ≤ nameLimit
    · rw [if_pos (hlimits.mpr ⟨Nat.not_le.mp hpath, hlength⟩)]
      exact follow_eq_foundAt k htop.get?_eq ⟨ho.ne_dot, ho.ne_dots, hlength⟩
    · rw [if_neg fun hw => hlength (hlimits.mp hw).2]
      exact follow_long htop.get?_eq ho.ne_dot ho.ne_dots (Nat.not_le.mp hlength)

end View

end Stencil.Filesystem
