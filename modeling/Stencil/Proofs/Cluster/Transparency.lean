import Stencil.Proofs.Cluster.Key
import Stencil.Proofs.Cluster.Session

set_option autoImplicit false
set_option relaxedAutoImplicit false

/-!
When a memory cannot be told from the client behind it. Questions share a cell when their keys are equal, and a
question that comes after a success in its cell gets that success for its answer. Main statement: in front of
clients whose answers last from one flush to the next, lookups are answered as the client answers them exactly
if no two of the questions that are asked share a kind and the text between the parentheses of their keys.
-/

namespace Stencil.Cluster

namespace Exchange

variable {σ : Type}

/-- Behind the first success all answers are the same, so each success is that of all later exchanges. -/
theorem pairwise_success {es : List (Exchange σ)}
    (h : ∀ l, firstSuccess? es = some l → ∀ e ∈ afterSuccess es, e.answer = .ok l) :
    es.Pairwise fun a b => ∀ l, a.answer = .ok l → b.answer = .ok l := by
  induction es with
  | nil => exact .nil
  | cons e rest ih =>
    rw [firstSuccess?, List.findSome?_cons, afterSuccess] at h
    cases he : e.success? with
    | some l =>
      rw [he] at h
      have hanswer : e.answer = .ok l := (success?_eq_some_iff e l).mp he
      have hrest : ∀ f ∈ rest, f.answer = .ok l := h l rfl
      refine List.pairwise_cons.mpr ⟨fun b hb m hm => ?_, ?_⟩
      · exact (hrest b hb).trans (hanswer.symm.trans hm)
      · exact List.pairwise_of_forall_mem_list fun a ha b hb m hm =>
          (hrest b hb).trans ((hrest a ha).symm.trans hm)
    | none =>
      rw [he] at h
      refine List.pairwise_cons.mpr ⟨fun b _ m hm => ?_, ih h⟩
      rw [(success?_eq_some_iff e m).mpr hm] at he
      cases he

theorem exists_success_before {es : List (Exchange σ)} {e : Exchange σ} (h : e ∈ afterSuccess es)
    {l : ObjectList} (hl : firstSuccess? es = some l) :
    ∃ f ∈ untilSuccess es, f.answer = .ok l ∧ [f, e].Sublist es := by
  induction es with
  | nil => cases h
  | cons d rest ih =>
    rw [firstSuccess?, List.findSome?_cons] at hl
    rw [afterSuccess] at h
    rw [untilSuccess]
    cases hd : d.success? with
    | some m =>
      rw [hd] at hl h
      obtain rfl : m = l := Option.some.inj hl
      have he : [e].Sublist rest := List.singleton_sublist.mpr h
      exact ⟨d, List.mem_singleton.mpr rfl, (success?_eq_some_iff d m).mp hd, he.cons_cons d⟩
    | none =>
      rw [hd] at hl h
      obtain ⟨f, hf, hanswer, hsub⟩ := ih h hl
      exact ⟨f, List.mem_cons_of_mem d hf, hanswer, hsub.cons d⟩

theorem pair_sublist_under {es : List (Exchange σ)} {a b : Exchange σ} (h : [a, b].Sublist es)
    (hkey : a.query.key = b.query.key) : [a, b].Sublist (under b.query.key es) := by
  have hpair : under b.query.key [a, b] = [a, b] := by
    simp [under, hkey]
  rw [← hpair]
  exact h.filter _

end Exchange

namespace Session

open Exchange

variable {σ : Type}

/-- Every lookup was answered as the client itself would have answered then. -/
def Transparent (c : Client σ) (x : Session σ) : Prop :=
  ∀ e ∈ x.lookups, e.answer = (c.list e.query e.own).1

/-- Since the last flush, each question would have had the same answer at every lookup, up to the reason of a
failure. -/
def Steady (c : Client σ) (x : Session σ) : Prop :=
  ∀ a ∈ x.lookups, ∀ b ∈ x.lookups, ∀ q l, (c.list q a.own).1 = .ok l → (c.list q b.own).1 = .ok l

/-- A memory is transparent, whatever its client does, exactly if every success that the client would give is
also what it would give at the later lookups in the same cell. -/
theorem Sound.transparent_iff {c : Client σ} {x : Session σ} (h : Sound c x) :
    Transparent c x ↔ x.lookups.Pairwise fun a b => a.query.key = b.query.key →
      ∀ l, (c.list a.query a.own).1 = .ok l → (c.list b.query b.own).1 = .ok l := by
  constructor
  · intro hdirect
    refine List.pairwise_of_forall_sublist fun {a b} hsub hkey l ha => ?_
    have hpair := List.pairwise_iff_forall_sublist.mp (pairwise_success (h.course b.query.key).later)
      (pair_sublist_under hsub hkey)
    have hamem : a ∈ x.lookups := hsub.subset List.mem_cons_self
    have hbmem : b ∈ x.lookups := hsub.subset (List.mem_cons_of_mem a List.mem_cons_self)
    rw [← hdirect b hbmem]
    exact hpair l ((hdirect a hamem).trans ha)
  · intro hpairs e he
    rcases h.called_or_later he with hcall | hlater
    · exact h.answer e hcall
    · -- the success that answered stands before in the same cell, and it was a call
      have hcourse := h.course e.query.key
      obtain ⟨l, hl⟩ := exists_firstSuccess_of_mem_afterSuccess hlater
      obtain ⟨f, hf, hanswer, hsub⟩ := exists_success_before hlater hl
      rw [← hcourse.calls] at hf
      obtain ⟨hfcall, hfkey⟩ := List.mem_filter.mp hf
      have hbefore : [f, e].Sublist x.lookups := hsub.trans List.filter_sublist
      have hdirect : (c.list e.query e.own).1 = .ok l :=
        List.pairwise_iff_forall_sublist.mp hpairs hbefore (of_decide_eq_true hfkey) l
          ((h.answer f hfcall).symm.trans hanswer)
      rw [hdirect]
      exact hcourse.later l hl e hlater

theorem lookups_fresh (s : σ) : (fresh s).lookups = [] := rfl

theorem mem_ops_of_mem_lookups (c : Client σ) (s : σ) (ops : List (Operation σ)) :
    ∀ e ∈ (run c s ops).lookups, .list e.query ∈ ops := by
  refine List.foldlRecOn ops (step c) (motive := fun x => ∀ e ∈ x.lookups, .list e.query ∈ ops) ?_ ?_
  · rw [lookups_fresh]
    exact fun e he => absurd he List.not_mem_nil
  · intro x hx op hop e he
    cases op with
    | list q =>
      rcases List.mem_append.mp he with he | he
      · exact hx e he
      · obtain rfl := List.mem_singleton.mp he
        exact hop
    | flush =>
      rw [step, lookups_fresh] at he
      exact absurd he List.not_mem_nil
    | change f => exact hx e he

theorem Steady.transparent {c : Client σ} {s : σ} {ops : List (Operation σ)} (h : Steady c (run c s ops))
    (hkeys : ∀ q r, .list q ∈ ops → .list r ∈ ops → q.key = r.key → q = r) :
    Transparent c (run c s ops) := by
  refine (sound_run c s ops).transparent_iff.mpr ?_
  refine List.pairwise_of_forall_mem_list fun a ha b hb hkey l hl => ?_
  have hquery : a.query = b.query :=
    hkeys _ _ (mem_ops_of_mem_lookups c s ops a ha) (mem_ops_of_mem_lookups c s ops b hb) hkey
  rw [← hquery]
  exact h a ha b hb a.query l hl

/-- The client that finds nothing for one question and something for every other. -/
def findsNothingFor (q : Query) : Client Unit where
  list r := fun s => (.ok ⟨r.kind, if r = q then [] else [.null]⟩, s)

theorem findsNothingFor_self (q : Query) : ((findsNothingFor q).list q ()).1 = .ok ⟨q.kind, []⟩ := by
  simp [findsNothingFor]

theorem findsNothingFor_ne {q r : Query} (h : r ≠ q) :
    ((findsNothingFor q).list r ()).1 = .ok ⟨r.kind, [.null]⟩ := by
  simp [findsNothingFor, h]

theorem exists_steady_not_transparent {q r : Query} (hne : q ≠ r) (hkey : q.key = r.key) :
    Steady (findsNothingFor q) (run (findsNothingFor q) () [.list q, .list r]) ∧
      ¬ Transparent (findsNothingFor q) (run (findsNothingFor q) () [.list q, .list r]) := by
  refine ⟨fun a _ b _ p l hl => hl, fun htransparent => ?_⟩
  have hpairs := (sound_run _ _ _).transparent_iff.mp htransparent
  have hlater : ∀ l, ((findsNothingFor q).list q ()).1 = .ok l → ((findsNothingFor q).list r ()).1 = .ok l :=
    (List.pairwise_cons.mp hpairs).1 _ (List.mem_singleton.mpr rfl) hkey
  have hsame := hlater _ (findsNothingFor_self q)
  rw [findsNothingFor_ne hne.symm] at hsame
  have hitems := congrArg ObjectList.items (Except.ok.inj hsame)
  cases hitems

/-- In front of clients whose answers last from one flush to the next, all lookups are answered as the client
answers them exactly if no two of the questions that may be asked share a kind and the text between the
parentheses of their keys. -/
theorem transparent_iff_inner_injective (asked : Query → Prop) :
    (∀ (σ : Type) (c : Client σ) (s : σ) (ops : List (Operation σ)), (∀ q, .list q ∈ ops → asked q) →
      Steady c (run c s ops) → Transparent c (run c s ops)) ↔
    ∀ q r, asked q → asked r → q.kind = r.kind → q.inner = r.inner → q = r := by
  constructor
  · intro htransparent q r hq hr hkind hinner
    by_contra hne
    have hkey : q.key = r.key := (Query.key_eq_iff q r).mpr ⟨hkind, hinner⟩
    obtain ⟨hsteady, hnot⟩ := exists_steady_not_transparent hne hkey
    refine hnot (htransparent Unit _ _ _ (fun p hp => ?_) hsteady)
    rcases List.mem_cons.mp hp with h | h
    · obtain rfl := Operation.list.inj h
      exact hq
    · obtain rfl := Operation.list.inj (List.mem_singleton.mp h)
      exact hr
  · intro hinjective σ c s ops hasked hsteady
    refine hsteady.transparent fun q r hq hr hkey => ?_
    obtain ⟨hkind, hinner⟩ := (Query.key_eq_iff q r).mp hkey
    exact hinjective q r (hasked q hq) (hasked r hr) hkind hinner

/-- A comma in a namespace makes two template calls share a cell, and the second finds the answer of the first. -/
theorem not_transparent_of_comma_in_namespace :
    let q : Query := ⟨.pods, some "default,app=web", "tier=front"⟩
    let r : Query := ⟨.pods, some "default", "app=web,tier=front"⟩
    let x := run (findsNothingFor q) () [.list q, .list r]
    q.IsAskable ∧ r.IsAskable ∧ q ≠ r ∧ Steady (findsNothingFor q) x ∧ ¬ Transparent (findsNothingFor q) x := by
  intro q r x
  have hq : q.IsAskable :=
    ⟨.pods, [("selector", .str "tier=front"), ("namespace", .str "default,app=web")], rfl⟩
  have hr : r.IsAskable :=
    ⟨.pods, [("selector", .str "app=web,tier=front"), ("namespace", .str "default")], rfl⟩
  have hne : q ≠ r := by decide
  have hkey : q.key = r.key := by decide
  obtain ⟨hsteady, hnot⟩ := exists_steady_not_transparent hne hkey
  exact ⟨hq, hr, hne, hsteady, hnot⟩

theorem transparent_of_plain_namespaces {c : Client σ} {s : σ} {ops : List (Operation σ)}
    (hsteady : Steady c (run c s ops)) (hasked : ∀ q, .list q ∈ ops → q.IsAskable ∧ q.IsPlain) :
    Transparent c (run c s ops) := by
  refine hsteady.transparent fun q r hq hr hkey => ?_
  obtain ⟨hkind, hinner⟩ := (Query.key_eq_iff q r).mp hkey
  obtain ⟨hqask, hqplain⟩ := hasked q hq
  obtain ⟨hrask, hrplain⟩ := hasked r hr
  exact hqask.eq_of_inner_eq hrask hqplain hrplain hkind hinner

end Session

end Stencil.Cluster
