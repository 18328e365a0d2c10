import Mathlib.Data.List.Nodup
import Stencil.Cluster.Remote
import Stencil.Proofs.Stable
import Stencil.Proofs.Text.ByteOrder

set_option autoImplicit false
set_option relaxedAutoImplicit false

/-!
The order of objects. Main statements: objects are sorted stably by the bytes of their names and namespaces; objects
that differ in name or namespace come into the same order, whatever order they were in; and a mirror takes in such
objects one after another as they are.
-/

namespace Stencil.Cluster

def identity (o : Object) : Option String × Option String := (name? o, namespaceOf? o)

def Distinct (objects : List Object) : Prop := (objects.map identity).Nodup

instance (objects : List Object) : Decidable (Distinct objects) := inferInstanceAs (Decidable (List.Nodup _))

/-- Texts in the order of their bytes, an absent one in front of all others. -/
def TextOrder : Option String → Option String → Prop
  | none, _ => True
  | some _, none => False
  | some a, some b => Text.Utf8.encode a ≤ Text.Utf8.encode b

/-- Objects in the order of their names, and of their namespaces where the names agree. -/
def ObjectOrder (a b : Object) : Prop :=
  TextOrder (name? a) (name? b) ∧ (name? a = name? b → TextOrder (namespaceOf? a) (namespaceOf? b))

section Texts

variable {a b c : Option String}

theorem textLe_total (a b : Option String) : textLe a b = true ∨ textLe b a = true := by
  cases a with
  | none => exact .inl rfl
  | some a =>
    cases b with
    | none => exact .inr rfl
    | some b => exact (String.le_total a b).imp (decide_eq_true ·) (decide_eq_true ·)

theorem textLe_trans (h : textLe a b = true) (h' : textLe b c = true) : textLe a c = true := by
  cases a with
  | none => rfl
  | some a =>
    cases b with
    | none => cases h
    | some b =>
      cases c with
      | none => cases h'
      | some c => exact decide_eq_true (String.le_trans (of_decide_eq_true h) (of_decide_eq_true h'))

theorem textLe_antisymm (h : textLe a b = true) (h' : textLe b a = true) : a = b := by
  cases a with
  | none =>
    cases b with
    | none => rfl
    | some b => cases h'
  | some a =>
    cases b with
    | none => cases h
    | some b => exact congrArg some (String.le_antisymm (of_decide_eq_true h) (of_decide_eq_true h'))

theorem textLe_iff (a b : Option String) : textLe a b = true ↔ TextOrder a b := by
  cases a with
  | none => exact iff_of_true rfl trivial
  | some a =>
    cases b with
    | none => exact iff_of_false Bool.false_ne_true id
    | some b => exact decide_eq_true_iff.trans (Text.Utf8.encode_le_encode_iff a b).symm

end Texts

section Objects

variable {a b c : Object} {objects objects' held : List Object}

theorem objectLe_of_name_eq (h : name? a = name? b) : objectLe a b = textLe (namespaceOf? a) (namespaceOf? b) :=
  if_pos h

theorem objectLe_of_name_ne (h : name? a ≠ name? b) : objectLe a b = textLe (name? a) (name? b) := if_neg h

theorem name_le_of_objectLe (h : objectLe a b = true) : textLe (name? a) (name? b) = true := by
  by_cases hn : name? a = name? b
  · rw [hn]
    exact (textLe_total _ _).elim id id
  · rwa [← objectLe_of_name_ne hn]

theorem objectLe_total (a b : Object) : objectLe a b = true ∨ objectLe b a = true := by
  by_cases hn : name? a = name? b
  · rw [objectLe_of_name_eq hn, objectLe_of_name_eq hn.symm]
    exact textLe_total _ _
  · rw [objectLe_of_name_ne hn, objectLe_of_name_ne (Ne.symm hn)]
    exact textLe_total _ _

theorem objectLe_trans (h : objectLe a b = true) (h' : objectLe b c = true) : objectLe a c = true := by
  have hab := name_le_of_objectLe h
  have hbc := name_le_of_objectLe h'
  by_cases hac : name? a = name? c
  · -- then all three names agree, since the middle one lies between two equal ones
    have hn : name? a = name? b := textLe_antisymm hab (hac ▸ hbc)
    have hn' : name? b = name? c := hn.symm.trans hac
    rw [objectLe_of_name_eq hn] at h
    rw [objectLe_of_name_eq hn'] at h'
    rw [objectLe_of_name_eq hac]
    exact textLe_trans h h'
  · rw [objectLe_of_name_ne hac]
    exact textLe_trans hab hbc

theorem identity_eq_of_objectLe (h : objectLe a b = true) (h' : objectLe b a = true) : identity a = identity b := by
  have hn : name? a = name? b := textLe_antisymm (name_le_of_objectLe h) (name_le_of_objectLe h')
  rw [objectLe_of_name_eq hn] at h
  rw [objectLe_of_name_eq hn.symm] at h'
  rw [identity, identity, hn, textLe_antisymm h h']

theorem Distinct.perm (h : Distinct objects) (hp : objects.Perm objects') : Distinct objects' :=
  (hp.map identity).nodup_iff.mp h

theorem Distinct.filter (h : Distinct objects) (p : Object → Bool) : Distinct (objects.filter p) :=
  h.sublist (List.filter_sublist.map identity)

theorem objectLe_iff (a b : Object) : objectLe a b = true ↔ ObjectOrder a b := by
  rw [ObjectOrder, ← textLe_iff, ← textLe_iff]
  by_cases hn : name? a = name? b
  · have hle : textLe (name? a) (name? b) = true := hn ▸ (textLe_total (name? a) (name? a)).elim id id
    rw [objectLe_of_name_eq hn]
    exact ⟨fun h => ⟨hle, fun _ => h⟩, fun h => h.2 hn⟩
  · rw [objectLe_of_name_ne hn]
    exact ⟨fun h => ⟨h, fun he => absurd he hn⟩, And.left⟩

theorem objectLe_of_identity_eq (h : identity a = identity b) : objectLe a b = true := by
  have hn : name? a = name? b := congrArg Prod.fst h
  have hns : namespaceOf? a = namespaceOf? b := congrArg Prod.snd h
  rw [objectLe_of_name_eq hn, hns]
  exact (textLe_total _ _).elim id id

theorem stableSort_sort (objects : List Object) :
    StableSort ObjectOrder identity objects (objects.mergeSort objectLe) := by
  have horder : (fun a b : Object => objectLe a b = true) = ObjectOrder :=
    funext fun a => funext fun b => propext (objectLe_iff a b)
  rw [← horder]
  exact mergeSort_stableSort objectLe objectLe_total (fun _ _ _ => objectLe_trans) (fun _ _ => objectLe_of_identity_eq)
    objects

theorem eq_sort_of_stableSort {sorted : List Object} (h : StableSort ObjectOrder identity objects sorted) :
    sorted = objects.mergeSort objectLe := by
  refine h.unique (fun a b hab hba => ?_) (stableSort_sort objects)
  exact identity_eq_of_objectLe ((objectLe_iff a b).mpr hab) ((objectLe_iff b a).mpr hba)

theorem pairwise_sort (objects : List Object) :
    (objects.mergeSort objectLe).Pairwise fun a b => objectLe a b = true :=
  (stableSort_sort objects).ordered.imp fun {a b} => (objectLe_iff a b).mpr

theorem sort_eq_of_shuffled (h : Shuffled identity objects objects') :
    objects.mergeSort objectLe = objects'.mergeSort objectLe := by
  have hsort := stableSort_sort objects'
  exact (eq_sort_of_stableSort ⟨h.trans hsort.toShuffled, hsort.ordered⟩).symm

theorem Distinct.sort_eq (h : Distinct objects) (hp : objects.Perm objects') :
    objects.mergeSort objectLe = objects'.mergeSort objectLe :=
  sort_eq_of_shuffled (.of_perm h hp)

theorem sameObject_iff (a b : Object) : sameObject a b = true ↔ identity a = identity b := by
  simp [sameObject, identity]

theorem applied_of_new {o : Object} (h : identity o ∉ objects.map identity) :
    (Change.applied o).act objects = objects ++ [o] := by
  refine if_neg fun hany => h ?_
  obtain ⟨x, hx, hsame⟩ := List.any_eq_true.mp hany
  exact List.mem_map.mpr ⟨x, hx, ((sameObject_iff o x).mp hsame).symm⟩

/-- Objects that come one after another are taken in as they are, as long as none of them is another one's successor. -/
theorem foldl_applied (h : Distinct (held ++ objects)) :
    objects.foldl (fun xs o => (Change.applied o).act xs) held = held ++ objects := by
  induction objects generalizing held with
  | nil => simp
  | cons o objects ih =>
    have hsplit : held ++ o :: objects = (held ++ [o]) ++ objects := by simp
    have hnew : identity o ∉ held.map identity := by
      intro hmem
      rw [Distinct, List.map_append, List.nodup_append] at h
      exact h.2.2 _ hmem _ List.mem_cons_self rfl
    rw [List.foldl_cons, applied_of_new hnew, hsplit]
    exact ih (hsplit ▸ h)

end Objects

end Stencil.Cluster
