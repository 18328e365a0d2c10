import Stencil.Proofs.Cluster.Order
import Stencil.Proofs.Table

set_option autoImplicit false
set_option relaxedAutoImplicit false

/-!
Histories of an inventory. Main statement: what a question is answered with follows from the calls before it. It fails
if its kind fails or its selector cannot be read, and otherwise gets the stable sort of the objects asked for among
those that are left of its kind. The order in which objects were inserted is of no account where their names and
namespaces tell them apart.
-/

namespace Stencil.Cluster

open Stencil.Label

/-- A question takes an object in: it is in the namespace asked for, if there is one, and its labels meet the
selector. -/
def Query.Takes (q : Query) (s : Selector) (o : Object) : Prop :=
  (q.kind.scope = .cluster ∨ q.ns?.getD "" = "" ∨ namespaceOf? o = q.ns?) ∧ s.holds (labelsOf o) = true

instance (q : Query) (s : Selector) (o : Object) : Decidable (q.Takes s o) := inferInstanceAs (Decidable (_ ∧ _))

theorem Query.ns?_of {kind : Kind} (h : kind.scope = .cluster) (ns : Option String) (selector : String) :
    (Query.of kind ns selector).ns? = none := by
  simp only [Query.of, h]

theorem Query.takes_iff {q : Query} (hq : q.kind.scope = .cluster → q.ns? = none) (s : Selector) (o : Object) :
    q.Takes s o ↔ (inNamespace q.ns? o && s.holds (labelsOf o)) = true := by
  rw [Takes, Bool.and_eq_true]
  refine and_congr_left fun _ => ?_
  cases hns : q.ns? with
  | none => simp [inNamespace]
  | some ns =>
    have hscope : q.kind.scope ≠ .cluster := by
      intro h
      cases (hq h).symm.trans hns
    simp [inNamespace, hscope]

namespace Inventory

inductive Call
  | insert (l : ObjectList)
  | replace (l : ObjectList)
  | fail (k : Kind)
  | heal (k : Kind)
  | list (q : Query)

def Call.isInsert : Call → Bool
  | .insert _ => true
  | _ => false

def step (i : Inventory) : Call → Inventory
  | .insert l => i.insert l
  | .replace l => i.replace l
  | .fail k => i.fail k
  | .heal k => i.heal k
  | .list q => (Inventory.list q i).2

/-- What a history leaves of the inventory that was empty in the beginning. -/
def after (history : List Call) : Inventory := history.foldl step .empty

def inserted (k : Kind) (calls : List Call) : List Object :=
  calls.flatMap fun
    | .insert l => if l.kind = k then l.items else []
    | _ => []

def questions (calls : List Call) : List Query :=
  calls.filterMap fun
    | .list q => some q
    | _ => none

def Keeps (k : Kind) (calls : List Call) : Prop := ∀ l, .replace l ∈ calls → l.kind ≠ k

/-- What is left of a kind: the objects of its last replacement, and behind them all that were inserted since. -/
inductive Holds (k : Kind) : List Call → List Object → Prop
  | unreplaced {history : List Call} : Keeps k history → Holds k history (inserted k history)
  | replaced {before since : List Call} {l : ObjectList} :
      l.kind = k → Keeps k since → Holds k (before ++ .replace l :: since) (l.items ++ inserted k since)

def Fails (k : Kind) (history : List Call) : Prop :=
  ∃ before since, history = before ++ .fail k :: since ∧ .heal k ∉ since

/-- Calls that insert the objects of a kind in another order, and are otherwise the same. No two of the objects have the
same name and namespace, and none is replaced in between. -/
structure Reordered (k : Kind) (calls calls' : List Call) : Prop where
  others : calls.filter (!·.isInsert) = calls'.filter (!·.isInsert)
  keeps : Keeps k calls
  distinct : Distinct (inserted k calls)
  perm : (inserted k calls).Perm (inserted k calls')

variable {k : Kind} {i : Inventory} {calls calls' history : List Call}

theorem after_append (history calls : List Call) : after (history ++ calls) = calls.foldl step (after history) :=
  List.foldl_append

/-! ### Objects -/

theorem objects_step (i : Inventory) (c : Call) (k : Kind) :
    (step i c).objects k =
      match c with
      | .insert l => i.objects k ++ (if l.kind = k then l.items else [])
      | .replace l => if l.kind = k then l.items else i.objects k
      | _ => i.objects k := by
  cases c with
  | insert l =>
    simp only [step, insert, eq_comm (a := k)]
    split
    · rfl
    · rw [List.append_nil]
  | replace l => simp only [step, replace, eq_comm (a := k)]
  | fail => rfl
  | heal => rfl
  | list => rfl

theorem inserted_append (k : Kind) (calls calls' : List Call) :
    inserted k (calls ++ calls') = inserted k calls ++ inserted k calls' :=
  List.flatMap_append

theorem objects_step_of_keeps {c : Call} (h : Keeps k [c]) : (step i c).objects k = i.objects k ++ inserted k [c] := by
  rw [objects_step]
  cases c with
  | insert l => simp [inserted]
  | replace l =>
    have hne : l.kind ≠ k := h l List.mem_cons_self
    simp [inserted, hne]
  | fail => simp [inserted]
  | heal => simp [inserted]
  | list => simp [inserted]

theorem objects_foldl (h : Keeps k calls) : (calls.foldl step i).objects k = i.objects k ++ inserted k calls := by
  induction calls generalizing i with
  | nil => simp [inserted]
  | cons c calls ih =>
    have hfirst : Keeps k [c] := fun l hl => h l (List.mem_singleton.mp hl ▸ List.mem_cons_self)
    have hrest : Keeps k calls := fun l hl => h l (List.mem_cons_of_mem c hl)
    have hsplit : inserted k (c :: calls) = inserted k [c] ++ inserted k calls := inserted_append k [c] calls
    rw [List.foldl_cons, ih hrest, objects_step_of_keeps hfirst, hsplit, List.append_assoc]

/-- Either nothing takes the place of the objects of a kind, or there is a last time that something does. -/
theorem keeps_or_replaced (k : Kind) (calls : List Call) :
    Keeps k calls ∨ ∃ before l since, calls = before ++ .replace l :: since ∧ l.kind = k ∧ Keeps k since := by
  induction calls with
  | nil => exact .inl fun l hl => absurd hl List.not_mem_nil
  | cons c calls ih =>
    rcases ih with hkeeps | ⟨before, l, since, rfl, hkind, hkeeps⟩
    · by_cases hc : ∃ l, c = .replace l ∧ l.kind = k
      · obtain ⟨l, rfl, hkind⟩ := hc
        exact .inr ⟨[], l, calls, rfl, hkind, hkeeps⟩
      · refine .inl fun l hl hkind => ?_
        rcases List.mem_cons.mp hl with rfl | hl
        · exact hc ⟨l, rfl, hkind⟩
        · exact hkeeps l hl hkind
    · exact .inr ⟨c :: before, l, since, rfl, hkind, hkeeps⟩

theorem objects_foldl_of_replaced {before since : List Call} {l : ObjectList} (hkind : l.kind = k)
    (h : Keeps k since) :
    ((before ++ .replace l :: since).foldl step i).objects k = l.items ++ inserted k since := by
  rw [List.foldl_append, List.foldl_cons, objects_foldl h, objects_step]
  exact congrArg (· ++ inserted k since) (if_pos hkind)

theorem holds_iff (k : Kind) (history : List Call) (held : List Object) :
    Holds k history held ↔ held = (after history).objects k := by
  constructor
  · intro h
    cases h with
    | unreplaced hkeeps => exact (objects_foldl (i := .empty) hkeeps).symm
    | replaced hkind hkeeps => exact (objects_foldl_of_replaced hkind hkeeps).symm
  · rintro rfl
    rcases keeps_or_replaced k history with hkeeps | ⟨before, l, since, rfl, hkind, hkeeps⟩
    · rw [after, objects_foldl hkeeps]
      exact .unreplaced hkeeps
    · rw [after, objects_foldl_of_replaced hkind hkeeps]
      exact .replaced hkind hkeeps

theorem objects_foldl_shuffled {j : Inventory} (h : Shuffled identity (i.objects k) (j.objects k)) (since : List Call) :
    Shuffled identity ((since.foldl step i).objects k) ((since.foldl step j).objects k) := by
  rcases keeps_or_replaced k since with hkeeps | ⟨before, l, since, rfl, hkind, hkeeps⟩
  · rw [objects_foldl hkeeps, objects_foldl hkeeps]
    exact h.append (.refl ..)
  · rw [objects_foldl_of_replaced hkind hkeeps, objects_foldl_of_replaced hkind hkeeps]
    exact .refl ..

/-! ### Failing -/

theorem mem_failing_step (i : Inventory) (c : Call) (k : Kind) :
    k ∈ (step i c).failing ↔ c = .fail k ∨ k ∈ i.failing ∧ c ≠ .heal k := by
  cases c with
  | insert l => simp [step, insert]
  | replace l => simp [step, replace]
  | fail l =>
    have hmem : k ∈ (i.fail l).failing ↔ k = l ∨ k ∈ i.failing := by
      rw [Inventory.fail]
      split
      · next h => exact ⟨.inr, fun hk => hk.elim (fun he => he ▸ List.contains_iff_mem.mp h) id⟩
      · exact List.mem_cons
    simp [step, hmem, eq_comm (a := k)]
  | heal l => simp [step, heal, eq_comm (a := k)]
  | list q => simp [step, Inventory.list]

theorem fails_cons_iff (k : Kind) (c : Call) (calls : List Call) :
    Fails k (c :: calls) ↔ Fails k calls ∨ c = .fail k ∧ .heal k ∉ calls := by
  constructor
  · rintro ⟨before, since, h, hheal⟩
    rcases List.cons_eq_append_iff.mp h with ⟨-, hcons⟩ | ⟨before', -, hcalls⟩
    · obtain ⟨rfl, rfl⟩ := List.cons.inj hcons
      exact .inr ⟨rfl, hheal⟩
    · exact .inl ⟨before', since, hcalls, hheal⟩
  · rintro (⟨before, since, rfl, hheal⟩ | ⟨rfl, hheal⟩)
    · exact ⟨c :: before, since, rfl, hheal⟩
    · exact ⟨[], calls, rfl, hheal⟩

theorem mem_failing_foldl (i : Inventory) (calls : List Call) (k : Kind) :
    k ∈ (calls.foldl step i).failing ↔ Fails k calls ∨ k ∈ i.failing ∧ .heal k ∉ calls := by
  induction calls generalizing i with
  | nil =>
    have hno : ¬Fails k [] := by
      rintro ⟨before, since, h, -⟩
      exact List.append_ne_nil_of_right_ne_nil before (List.cons_ne_nil _ since) h.symm
    simp [hno]
  | cons c calls ih =>
    rw [List.foldl_cons, ih, mem_failing_step, fails_cons_iff, List.mem_cons, not_or, ne_comm (a := c)]
    tauto

theorem mem_failing_after_iff (history : List Call) (k : Kind) : k ∈ (after history).failing ↔ Fails k history := by
  rw [after, mem_failing_foldl]
  simp [Inventory.empty]

theorem failing_foldl {j : Inventory} (h : i.failing = j.failing) (calls : List Call) :
    (calls.foldl step i).failing = ((calls.filter (!·.isInsert)).foldl step j).failing := by
  induction calls generalizing i j with
  | nil => exact h
  | cons c calls ih =>
    cases c with
    | insert l => exact ih h
    | replace l => exact ih h
    | fail k =>
      refine ih ?_
      simp [step, Inventory.fail, h]
    | heal k =>
      refine ih ?_
      simp [step, heal, h]
    | list q => exact ih h

/-! ### Counts -/

theorem sum_countUp (key : String) (asked : List (String × Nat)) :
    (countUp key asked).foldr (fun q n => q.2 + n) 0 = asked.foldr (fun q n => q.2 + n) 0 + 1 := by
  induction asked with
  | nil => rfl
  | cons entry asked ih =>
    rw [countUp, List.foldr_cons]
    split
    · rw [List.foldr_cons]
      omega
    · rw [List.foldr_cons, ih, Nat.add_assoc]

theorem lookup_countUp (key k : String) (asked : List (String × Nat)) :
    ((countUp key asked).lookup k).getD 0 = (asked.lookup k).getD 0 + if key = k then 1 else 0 := by
  induction asked with
  | nil =>
    by_cases hk : key = k
    · simp [countUp, hk]
    · simp [countUp, hk, Table.lookup_cons_ne _ _ (Ne.symm hk)]
  | cons entry asked ih =>
    obtain ⟨l, n⟩ := entry
    rw [countUp]
    split
    · next hl =>
      subst hl
      by_cases hk : l = k
      · simp [hk]
      · simp [hk, Table.lookup_cons_ne _ _ (Ne.symm hk)]
    · next hl =>
      by_cases hk : l = k
      · subst hk
        simp [Ne.symm hl]
      · rw [Table.lookup_cons_ne _ _ (Ne.symm hk), Table.lookup_cons_ne _ _ (Ne.symm hk), ih]

theorem questions_cons (c : Call) (calls : List Call) : questions (c :: calls) = questions [c] ++ questions calls :=
  List.filterMap_append (l := [c])

theorem totalFetches_step (i : Inventory) (c : Call) :
    (step i c).totalFetches = i.totalFetches + (questions [c]).length := by
  cases c with
  | list q => exact sum_countUp q.key i.asked
  | insert => rfl
  | replace => rfl
  | fail => rfl
  | heal => rfl

theorem fetches_step (i : Inventory) (c : Call) (key : String) :
    (step i c).fetches key = i.fetches key + (questions [c]).countP (·.key = key) := by
  cases c with
  | list q =>
    have hcount : (questions [.list q]).countP (·.key = key) = if q.key = key then 1 else 0 := by
      simp [questions, List.countP_singleton]
    rw [hcount]
    exact lookup_countUp q.key key i.asked
  | insert => rfl
  | replace => rfl
  | fail => rfl
  | heal => rfl

theorem totalFetches_foldl (i : Inventory) (calls : List Call) :
    (calls.foldl step i).totalFetches = i.totalFetches + (questions calls).length := by
  induction calls generalizing i with
  | nil => rfl
  | cons c calls ih =>
    rw [List.foldl_cons, ih, totalFetches_step, questions_cons c calls, List.length_append, Nat.add_assoc]

theorem fetches_foldl (i : Inventory) (calls : List Call) (key : String) :
    (calls.foldl step i).fetches key = i.fetches key + (questions calls).countP (·.key = key) := by
  induction calls generalizing i with
  | nil => rfl
  | cons c calls ih =>
    rw [List.foldl_cons, ih, fetches_step, questions_cons c calls, List.countP_append, Nat.add_assoc]

/-! ### Answers -/

theorem fails_iff_contains (history : List Call) (k : Kind) :
    (after history).failing.contains k = true ↔ Fails k history := by
  rw [List.contains_iff_mem, mem_failing_after_iff]

/-- The answer to a question depends on what fails, and on the objects of its kind but for their shuffling. -/
theorem answer_eq_of_shuffled {j : Inventory} {q : Query} (hf : i.failing = j.failing)
    (hs : Shuffled identity (i.objects q.kind) (j.objects q.kind)) : i.answer q = j.answer q := by
  have hselect (s : Selector) :
      (ObjectList.select ⟨q.kind, i.objects q.kind⟩ q.ns? s).sort =
        (ObjectList.select ⟨q.kind, j.objects q.kind⟩ q.ns? s).sort :=
    congrArg (ObjectList.mk q.kind) (sort_eq_of_shuffled (hs.filter _))
  rw [answer, answer, hf]
  simp only [hselect]

theorem Reordered.keeps' (h : Reordered k calls calls') : Keeps k calls' := by
  intro l hl
  have hother : .replace l ∈ calls'.filter (!·.isInsert) := List.mem_filter.mpr ⟨hl, rfl⟩
  exact h.keeps l (List.mem_filter.mp (h.others ▸ hother)).1

theorem Reordered.answer_eq {q : Query} {before since : List Call} (h : Reordered q.kind calls calls') :
    (after (before ++ (calls ++ since))).answer q = (after (before ++ (calls' ++ since))).answer q := by
  have hobjects : Shuffled identity ((calls.foldl step (after before)).objects q.kind)
      ((calls'.foldl step (after before)).objects q.kind) := by
    rw [objects_foldl h.keeps, objects_foldl h.keeps']
    exact (Shuffled.refl ..).append (.of_perm h.distinct h.perm)
  have hfailing : (calls.foldl step (after before)).failing = (calls'.foldl step (after before)).failing := by
    rw [failing_foldl rfl calls, failing_foldl rfl calls', h.others]
  rw [after_append, after_append, List.foldl_append, List.foldl_append]
  refine answer_eq_of_shuffled ?_ (objects_foldl_shuffled hobjects since)
  rw [failing_foldl hfailing since, failing_foldl rfl since]

/-- What a question is answered with after a history. As every question that is built by `Query.of`, one about a kind of the
whole cluster has no namespace. -/
theorem question_is_answered_by_history (history : List Call) (q : Query)
    (hq : q.kind.scope = .cluster → q.ns? = none) :
    let i := after history
    (Fails q.kind history → (Inventory.list q i).1 = .error (.syncFailed q.kind)) ∧
      (¬Fails q.kind history →
        (∀ e, Selector.parse q.selector = .error e →
          (Inventory.list q i).1 = .error (.invalidSelector q.selector e)) ∧
        ∀ s, Selector.parse q.selector = .ok s → ∃ held sorted, Holds q.kind history held ∧
          StableSort ObjectOrder identity (held.filter (q.Takes s ·)) sorted ∧
          (Inventory.list q i).1 = .ok ⟨q.kind, sorted⟩) ∧
      (Inventory.list q i).2.objects = i.objects ∧
      i.totalFetches = (questions history).length ∧
      ∀ before calls calls' since, Reordered q.kind calls calls' → history = before ++ (calls ++ since) →
        (Inventory.list q (after (before ++ (calls' ++ since)))).1 = (Inventory.list q i).1 := by
  intro i
  refine ⟨fun hfails => ?_, fun hfails => ⟨fun e he => ?_, fun s hs => ?_⟩, rfl, ?_, ?_⟩
  · exact if_pos ((fails_iff_contains history q.kind).mpr hfails)
  · have hcontains := mt (fails_iff_contains history q.kind).mp hfails
    refine (if_neg hcontains).trans ?_
    rw [Query.parseSelector, he]
    rfl
  · have hcontains := mt (fails_iff_contains history q.kind).mp hfails
    have htakes : (i.objects q.kind).filter (q.Takes s ·) =
        (i.objects q.kind).filter fun o => inNamespace q.ns? o && s.holds (labelsOf o) :=
      List.filter_congr fun o _ => Bool.eq_iff_iff.mpr (decide_eq_true_iff.trans (Query.takes_iff hq s o))
    refine ⟨_, _, (holds_iff q.kind history _).mpr rfl, stableSort_sort _, (if_neg hcontains).trans ?_⟩
    rw [Query.parseSelector, hs, htakes]
    rfl
  · exact (totalFetches_foldl .empty history).trans (Nat.zero_add _)
  · rintro before calls calls' since h rfl
    exact h.answer_eq.symm

/-- Pods of two namespaces that are inserted in either order, around a question that fails. The question is for one of
the namespaces. -/
theorem pods_are_listed_alike_in_either_order :
    let pod (name ns : String) : Object :=
      .obj [("metadata", .obj [("name", .str name), ("namespace", .str ns), ("labels", .obj [("edge", .str "")])])]
    let q := Query.of .pods (some "default") " edge "
    let around (l m : ObjectList) : List Call := [.insert l, .list q, .insert m]
    let a : ObjectList := ⟨.pods, [pod "a" "default"]⟩
    let b : ObjectList := ⟨.pods, [pod "b" "default", pod "a" "other"]⟩
    let history : List Call := [.fail .pods] ++ (around b a ++ [.heal .pods])
    (Inventory.list q (after history)).1 = .ok ⟨.pods, [pod "a" "default", pod "b" "default"]⟩ ∧
      (Inventory.list q (after ([.fail .pods] ++ (around a b ++ [.heal .pods])))).1 =
        (Inventory.list q (after history)).1 ∧
      (after history).totalFetches = 1 := by
  intro pod q around a b history
  have hq : q.kind.scope = .cluster → q.ns? = none := fun h => Query.ns?_of h _ _
  obtain ⟨-, hanswer, -, hcount, hreorder⟩ := question_is_answered_by_history history q hq
  have hfails : ¬Fails .pods history := by
    rw [← mem_failing_after_iff]
    decide
  have hparse : Selector.parse q.selector = .ok ⟨"edge", [⟨"edge", .present⟩]⟩ := by decide +kernel
  obtain ⟨held, sorted, hheld, hsorted, hlist⟩ := (hanswer hfails).2 _ hparse
  have hreordered : Reordered .pods (around b a) (around a b) := by
    refine ⟨rfl, fun l hl => by simp [around] at hl, by decide, ?_⟩
    exact (List.perm_append_comm : (b.items ++ a.items).Perm (a.items ++ b.items))
  refine ⟨?_, hreorder [.fail .pods] (around b a) (around a b) [.heal .pods] hreordered rfl, hcount⟩
  have hboth : held.filter (q.Takes ⟨"edge", [⟨"edge", .present⟩]⟩ ·) = [pod "b" "default", pod "a" "default"] := by
    rw [(holds_iff .pods history held).mp hheld]
    rfl
  rw [hboth] at hsorted
  have heq : sorted = [pod "a" "default", pod "b" "default"] := by
    have hle : objectLe (pod "b" "default") (pod "a" "default") = false := by decide
    rw [eq_sort_of_stableSort hsorted]
    simp [List.mergeSort, hle]
  exact heq ▸ hlist

end Inventory

end Stencil.Cluster
