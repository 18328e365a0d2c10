import Mathlib.Data.List.DropRight
import Stencil.Filesystem.AtomicWrite
import Stencil.Proofs.Text.Utf8

set_option autoImplicit false
set_option relaxedAutoImplicit false

/-!
Paths as they are written: the last name and what stands before it. Main statement: names in the directory of a path
are written behind a front that names the same steps from the same place as the front of the path itself.
-/

namespace Stencil.Filesystem

open Stencil.Text

def namesIn (s : List Char) : List String := ((s.splitOn '/').map String.ofList).filter (· != "")

theorem namesIn_append (s t : List Char) : namesIn (s ++ '/' :: t) = namesIn s ++ namesIn t := by
  rw [namesIn, List.splitOn_append_cons_self, List.map_append, List.filter_append]
  rfl

theorem namesIn_concat_slash (s : List Char) : namesIn (s ++ ['/']) = namesIn s :=
  (namesIn_append s []).trans (List.append_nil _)

theorem namesIn_of_name {name : String} (hne : name ≠ "") (h : '/' ∉ name.toList) : namesIn name.toList = [name] := by
  simp [namesIn, List.splitOn_eq_singleton h, hne]

def stepsOf (names : List String) : List String := names.filter (· ≠ ".")

theorem stepsOf_append (names more : List String) : stepsOf (names ++ more) = stepsOf names ++ stepsOf more :=
  List.filter_append ..

/-- A path is written as a name behind a front, which is empty or ends in a slash. -/
structure EndsIn (path : String) (front : List Char) (name : String) : Prop where
  eq : path.toList = front ++ name.toList
  front : front = [] ∨ ∃ s, front = s ++ ['/']
  name_ne : name ≠ ""
  slash : '/' ∉ name.toList

namespace EndsIn

variable {path name : String} {front : List Char}

theorem exists_of_path (hne : path ≠ "") (h : endsInSlash path = false) : ∃ front name, EndsIn path front name := by
  have hlist : path.toList ≠ [] := by simpa using hne
  have hlast : path.toList.getLast hlist ≠ '/' := by
    intro heq
    rw [endsInSlash, List.getLast?_eq_some_getLast hlist, heq] at h
    cases h
  refine ⟨path.toList.rdropWhile (· != '/'), String.ofList (path.toList.rtakeWhile (· != '/')), ?_, ?_, ?_, ?_⟩
  · rw [String.toList_ofList, List.rdropWhile_append_rtakeWhile]
  · rcases eq_or_ne (path.toList.rdropWhile (· != '/')) [] with hnil | hcons
    · exact .inl hnil
    · have hslash : (path.toList.rdropWhile (· != '/')).getLast hcons = '/' := by
        simpa using List.rdropWhile_last_not (· != '/') path.toList hcons
      exact .inr ⟨_, hslash ▸ (List.dropLast_concat_getLast hcons).symm⟩
  · have htake : path.toList.rtakeWhile (· != '/') ≠ [] := fun hnil => by
      simpa [hlast] using List.rtakeWhile_eq_nil_iff.mp hnil hlist
    simpa using htake
  · rw [String.toList_ofList]
    exact fun hmem => by simpa using List.mem_rtakeWhile_imp hmem

theorem namesOf_eq (h : EndsIn path front name) : namesOf path = namesIn front ++ [name] := by
  change namesIn path.toList = _
  rw [h.eq]
  rcases h.front with rfl | ⟨s, rfl⟩
  · exact namesIn_of_name h.name_ne h.slash
  · rw [List.append_assoc, List.singleton_append, namesIn_append, namesIn_concat_slash,
      namesIn_of_name h.name_ne h.slash]

theorem utf8ByteSize_eq (h : EndsIn path front name) :
    path.utf8ByteSize = Find.byteLength front + name.utf8ByteSize := by
  have hpath : path = String.ofList front ++ name := String.toList_injective (by simp [h.eq])
  rw [hpath, String.utf8ByteSize_append, Utf8.utf8ByteSize_ofList]

theorem endsInSlash_eq (h : EndsIn path front name) : endsInSlash path = false := by
  have hname : name.toList ≠ [] := by simpa using h.name_ne
  rw [endsInSlash, h.eq, List.getLast?_append_of_ne_nil _ hname, List.getLast?_eq_some_getLast hname]
  have hlast : name.toList.getLast hname ≠ '/' := fun heq => h.slash (heq ▸ List.getLast_mem hname)
  simpa using hlast

theorem isAbsolute_eq (h : EndsIn path front name) : Path.isAbsolute path = (front.head? == some '/') := by
  rw [Path.isAbsolute, h.eq]
  cases front with
  | nil =>
    have hhead : name.toList.head? ≠ some '/' := fun heq => h.slash (List.mem_of_mem_head? heq)
    simpa using hhead
  | cons c front => rfl

end EndsIn

namespace Path

theorem trimmedEnd_suffix (s : List Char) : trimmedEnd s <:+ s := by
  fun_induction trimmedEnd s with
  | case1 c r ih => exact ih.trans (List.suffix_cons '/' (c :: r))
  | case2 r h => exact ⟨['.'], by simp [List.isEmpty_iff.mp h]⟩
  | case3 r h ih => exact ih.trans (List.suffix_cons '.' ('/' :: r))
  | case4 s => exact List.suffix_refl s

theorem getLast?_trimmedEnd (s : List Char) : (trimmedEnd s).getLast? = s.getLast? := by
  fun_induction trimmedEnd s with
  | case1 c r ih => rw [ih, List.getLast?_cons_cons]
  | case2 r h => simp [List.isEmpty_iff.mp h]
  | case3 r h ih => rw [ih, List.getLast?_cons_cons]
  | case4 s => rfl

theorem trimmedEnd_eq_nil_iff (s : List Char) : trimmedEnd s = [] ↔ s = [] := by
  rw [← List.getLast?_eq_none_iff, getLast?_trimmedEnd, List.getLast?_eq_none_iff]

theorem stepsOf_trimmedEnd (s : List Char) :
    stepsOf (namesIn (trimmedEnd s).reverse) = stepsOf (namesIn s.reverse) := by
  fun_induction trimmedEnd s with
  | case1 c r ih => rw [ih, List.reverse_cons (a := '/'), namesIn_concat_slash]
  | case2 r h =>
    rw [List.isEmpty_iff.mp h]
    decide
  | case3 r h ih =>
    rw [ih, List.reverse_cons, List.reverse_cons, List.reverse_cons, namesIn_concat_slash, List.append_assoc,
      List.singleton_append, namesIn_append, stepsOf_append]
    have hpoint : stepsOf (namesIn ['.']) = [] := congrArg stepsOf (@namesIn_of_name "." (by decide) (by decide))
    rw [hpoint, List.append_nil]
  | case4 s => rfl

end Path

namespace EndsIn

variable {path name : String} {front : List Char}

theorem exists_components (h : EndsIn path front name) (hname : name ≠ ".") :
    ∃ above, Path.components path = above ++ [if name == ".." then .parent else .name name] := by
  have hnamed : (Path.pieces path).filter (fun s => s != "" && s != ".") = stepsOf (namesIn front) ++ [name] := by
    have hsteps : stepsOf (namesOf path) = stepsOf (namesIn front) ++ [name] := by
      rw [h.namesOf_eq, stepsOf_append]
      simp [stepsOf, hname]
    rw [← hsteps, stepsOf, namesOf, List.filter_filter]
    exact List.filter_congr fun s _ => by rw [Bool.eq_iff_iff]; simp [and_comm]
  rw [Path.components, hnamed, List.map_append]
  split
  · exact ⟨_, (List.cons_append ..).symm⟩
  · split
    · exact ⟨_, (List.cons_append ..).symm⟩
    · exact ⟨_, rfl⟩

theorem fileName?_eq (h : EndsIn path front name) (hdot : name ≠ ".") (hdots : name ≠ "..") :
    Path.fileName? path = some name := by
  obtain ⟨above, habove⟩ := h.exists_components hdot
  rw [Path.fileName?, habove, List.getLast?_append]
  simp [hdots]

theorem trimmedEnd_eq (h : EndsIn path front name) (hname : name ≠ ".") :
    Path.trimmedEnd path.toList.reverse = path.toList.reverse := by
  obtain ⟨c, r, hr⟩ := List.exists_cons_of_ne_nil (l := name.toList.reverse) (by simpa using h.name_ne)
  have hslash : '/' ∉ c :: r := by simpa [← hr] using h.slash
  rw [h.eq, List.reverse_append, hr, List.cons_append]
  unfold Path.trimmedEnd
  split
  · next heq => exact absurd (List.cons.inj heq).1.symm (List.ne_of_not_mem_cons hslash)
  · next heq =>
    obtain ⟨rfl, hrest⟩ := List.cons.inj heq
    cases r with
    | nil => exact absurd (String.toList_injective (List.reverse_injective hr)) hname
    | cons d r => exact absurd (List.cons.inj hrest).1 fun hd => hslash (by simp [hd])
  · rfl

theorem parent?_eq (h : EndsIn path front name) (hname : name ≠ ".") :
    Path.parent? path = some (String.ofList (Path.trimmedEnd front.reverse).reverse) := by
  obtain ⟨above, habove⟩ := h.exists_components hname
  have hdrop : path.toList.reverse.dropWhile (· != '/') = front.reverse := by
    rw [h.eq, List.reverse_append, List.dropWhile_append_of_pos]
    · rcases h.front with rfl | ⟨s, rfl⟩ <;> simp
    · intro c hc
      have hne : c ≠ '/' := fun heq => h.slash (heq ▸ List.mem_reverse.mp hc)
      simpa using hne
  rw [Path.parent?, habove]
  split
  · next heq => simp at heq
  · next heq =>
    have hroot := congrArg List.getLast? heq
    rw [List.getLast?_append] at hroot
    split at hroot <;> cases hroot
  · rw [h.trimmedEnd_eq hname, hdrop]

end EndsIn

namespace AtomicWrite

def beside (path name : String) : String := Path.join (directoryOf path) name

/-- Two fronts name the same steps from the same place. Beyond the characters of the first, the second one has no more
than a point and a slash. -/
structure SameFront (front front' : List Char) : Prop where
  steps : stepsOf (namesIn front') = stepsOf (namesIn front)
  root : (front'.head? == some '/') = (front.head? == some '/')
  characters : ∀ c ∈ front', c ∈ front ∨ c = '.' ∨ c = '/'
  bytes : Find.byteLength front' ≤ Find.byteLength front + 2

theorem sameFront_directory {front : List Char} (hfront : front ≠ []) :
    SameFront front ((Path.trimmedEnd front.reverse).reverse ++ ['/']) ∧
      SameFront front (Path.trimmedEnd front.reverse).reverse := by
  have hbegins : (Path.trimmedEnd front.reverse).reverse <+: front := by
    rw [← List.reverse_reverse front, List.reverse_prefix, List.reverse_reverse]
    exact Path.trimmedEnd_suffix front.reverse
  have hhead : (Path.trimmedEnd front.reverse).reverse.head? = front.head? := by
    rw [List.head?_reverse, Path.getLast?_trimmedEnd, List.getLast?_reverse]
  have hsteps : stepsOf (namesIn (Path.trimmedEnd front.reverse).reverse) = stepsOf (namesIn front) := by
    rw [Path.stepsOf_trimmedEnd, List.reverse_reverse]
  have hbytes : Find.byteLength (Path.trimmedEnd front.reverse).reverse ≤ Find.byteLength front := by
    obtain ⟨r, hr⟩ := hbegins
    have hlength := congrArg Find.byteLength hr
    rw [Find.byteLength_append] at hlength
    omega
  refine ⟨⟨?_, ?_, ?_, ?_⟩, ⟨hsteps, by rw [hhead], fun c hc => .inl (hbegins.subset hc), by omega⟩⟩
  · rw [namesIn_concat_slash, hsteps]
  · rw [List.head?_append, hhead]
    cases front with
    | nil => exact absurd rfl hfront
    | cons c front => rfl
  · intro c hc
    rcases List.mem_append.mp hc with hc | hc
    · exact .inl (hbegins.subset hc)
    · exact .inr (.inr (List.mem_singleton.mp hc))
  · have hslash : Find.byteLength ['/'] = 1 := rfl
    rw [Find.byteLength_append, hslash]
    omega

/-- Names in the directory of a path are written behind a front of their own that names the same steps. -/
theorem exists_front_beside {path name : String} {front : List Char} (h : EndsIn path front name)
    (hname : name ≠ ".") :
    ∃ front', SameFront front front' ∧
      ∀ other : String, other ≠ "" → '/' ∉ other.toList → EndsIn (beside path other) front' other := by
  have hrelative (other : String) (hslash : '/' ∉ other.toList) : Path.isAbsolute other = false := by
    have hhead : other.toList.head? ≠ some '/' := fun heq => hslash (List.mem_of_mem_head? heq)
    simpa [Path.isAbsolute] using hhead
  simp only [beside, directoryOf, h.parent?_eq hname]
  rcases eq_or_ne front [] with rfl | hfront
  · refine ⟨['.', '/'], ⟨by decide, rfl, by simp, by decide⟩, fun other hne hslash => ?_⟩
    refine ⟨?_, .inr ⟨['.'], rfl⟩, hne, hslash⟩
    simp [Path.trimmedEnd, Path.join, hrelative other hslash]
  · obtain ⟨hwith, hwithout⟩ := sameFront_directory hfront
    have hdirectory : (Path.trimmedEnd front.reverse).reverse ≠ [] := by
      simpa [Path.trimmedEnd_eq_nil_iff] using hfront
    generalize (Path.trimmedEnd front.reverse).reverse = directory at hwith hwithout hdirectory
    by_cases hlast : directory.getLast? = some '/'
    · obtain ⟨s, rfl⟩ := List.getLast?_eq_some_iff.mp hlast
      refine ⟨s ++ ['/'], hwithout, fun other hne hslash => ⟨?_, .inr ⟨s, rfl⟩, hne, hslash⟩⟩
      simp [Path.join, hrelative other hslash]
    · refine ⟨directory ++ ['/'], hwith, fun other hne hslash => ⟨?_, .inr ⟨directory, rfl⟩, hne, hslash⟩⟩
      simp [Path.join, hrelative other hslash, hdirectory, hlast]

theorem utf8ByteSize_beside_le {path name : String} {front : List Char} (h : EndsIn path front name)
    (hname : name ≠ ".") {other : String} (hne : other ≠ "") (hslash : '/' ∉ other.toList) :
    (beside path other).utf8ByteSize + name.utf8ByteSize ≤ path.utf8ByteSize + other.utf8ByteSize + 2 := by
  obtain ⟨front', hsame, hbeside⟩ := exists_front_beside h hname
  rw [(hbeside other hne hslash).utf8ByteSize_eq, h.utf8ByteSize_eq]
  have hbytes := hsame.bytes
  omega

end AtomicWrite

end Stencil.Filesystem
