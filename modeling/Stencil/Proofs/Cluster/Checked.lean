import Stencil.Proofs.Cluster.Session

set_option autoImplicit false
set_option relaxedAutoImplicit false

/-!
Questions by kind, whose answers are checked behind the memory. Main statement: when such a question is put again after
a failure, it reaches the client if the failure was the client's own or the memory was flushed since, and only then. A
list of another kind is a success for the memory, so the failure of the check comes again from what is kept.
-/

namespace Stencil.Cluster

/-- An answer to a question for a kind. A list of another kind is none. -/
def checked (kind : Kind) : Except Failure ObjectList → Except Failure ObjectList
  | .ok l => if l.kind = kind then .ok l else .error (.unexpectedKind kind l.kind)
  | .error e => .error e

theorem checked_eq_error_iff (kind : Kind) (answer : Except Failure ObjectList) (e : Failure) :
    checked kind answer = .error e ↔
      answer = .error e ∨ ∃ l, answer = .ok l ∧ l.kind ≠ kind ∧ e = .unexpectedKind kind l.kind := by
  cases answer with
  | ok l =>
    by_cases hkind : l.kind = kind
    · simp [checked, hkind]
    · simp [checked, hkind, eq_comm (a := e)]
  | error f => simp [checked]

theorem Memo.listOf_eq {σ : Type} (c : Client σ) (kind : Kind) (ns : Option String) (selector : String)
    (s : Memo × σ) :
    listOf c kind ns selector s =
      (checked kind (list c (Query.of kind ns selector) s).1, (list c (Query.of kind ns selector) s).2) := by
  rw [listOf]
  generalize list c (Query.of kind ns selector) s = r
  obtain ⟨answer | answer, t⟩ := r <;> rfl

namespace Session

variable {σ : Type} {c : Client σ} {x : Session σ} {q : Query}

/-- What comes of a question by kind that is put to a memory in use. -/
def ask (c : Client σ) (x : Session σ) (kind : Kind) (ns : Option String) (selector : String) :
    Except Failure ObjectList × Memo × σ × List (Exchange σ) :=
  Memo.listOf c.recording kind ns selector (x.memo, x.own, x.calls)

def Reaches (c : Client σ) (x : Session σ) (q : Query) : Prop :=
  (step c x (.list q)).calls = x.calls ++ [⟨q, x.own, (c.list q x.own).1⟩]

theorem lookup_cases (c : Client σ) (x : Session σ) (q : Query) :
    let answer := (Memo.list c.recording q (x.memo, x.own, x.calls)).1
    let y := step c x (.list q)
    (∃ l, x.memo.get? q.key = some l ∧ answer = .ok l ∧ y.memo.get? q.key = some l ∧ y.calls = x.calls) ∨
    (x.memo.get? q.key = none ∧ answer = (c.list q x.own).1 ∧ y.memo.get? q.key = answer.toOption ∧
      y.calls = x.calls ++ [⟨q, x.own, answer⟩]) := by
  have hlookup := Memo.lookup_list c.recording q x.memo (x.own, x.calls)
  simp only [step]
  generalize Memo.list c.recording q (x.memo, x.own, x.calls) = r at hlookup ⊢
  cases hlookup with
  | @hit l m hkept hm => exact .inl ⟨l, hkept, rfl, (congrFun hm q.key).trans hkept, rfl⟩
  | @fetched l m t hnone hcall hm =>
    obtain ⟨hanswer, rfl⟩ := Client.recording_list hcall
    refine .inr ⟨hnone, hanswer, ?_, rfl⟩
    exact (congrFun hm q.key).trans (Function.update_self ..)
  | @failed f m t hnone hcall hm =>
    obtain ⟨hanswer, rfl⟩ := Client.recording_list hcall
    exact .inr ⟨hnone, hanswer, (congrFun hm q.key).trans hnone, rfl⟩

theorem reaches_iff (c : Client σ) (x : Session σ) (q : Query) : Reaches c x q ↔ x.memo.get? q.key = none := by
  rw [Reaches]
  rcases lookup_cases c x q with ⟨l, hkept, -, -, hcalls⟩ | ⟨hnone, hanswer, -, hcalls⟩
  · simp [hcalls, hkept]
  · simp [hcalls, hnone, hanswer]

theorem get?_step_list_of_ne {key : String} (h : q.key ≠ key) :
    (step c x (.list q)).memo.get? key = x.memo.get? key := by
  have hlookup := Memo.lookup_list c.recording q x.memo (x.own, x.calls)
  simp only [step]
  generalize Memo.list c.recording q (x.memo, x.own, x.calls) = r at hlookup ⊢
  cases hlookup with
  | hit _ hm => exact congrFun hm key
  | fetched _ _ hm => exact (congrFun hm key).trans (Function.update_of_ne h.symm ..)
  | failed _ _ hm => exact congrFun hm key

theorem get?_foldl_eq_some_iff {key : String} {ops : List (Operation σ)}
    (hops : ∀ q, .list q ∈ ops → q.key ≠ key) (l : ObjectList) :
    (ops.foldl (step c) x).memo.get? key = some l ↔ .flush ∉ ops ∧ x.memo.get? key = some l := by
  induction ops generalizing x with
  | nil => simp
  | cons op ops ih =>
    have hrest := ih (x := step c x op) fun q hq => hops q (List.mem_cons_of_mem op hq)
    rw [List.foldl_cons, hrest]
    cases op with
    | list q => simp [get?_step_list_of_ne (hops q List.mem_cons_self)]
    | flush => simp [step, fresh, Memo.get?, Memo.empty]
    | change f => simp [step]

/-- Behind a question by kind that failed, there is either the client's failure, which is not kept, or a list of another
kind, which is. -/
theorem ask_eq_error {kind : Kind} {ns : Option String} {selector : String} {e : Failure}
    (h : (ask c x kind ns selector).1 = .error e) :
    let q := Query.of kind ns selector
    let y := step c x (.list q)
    (y.calls = x.calls ++ [⟨q, x.own, .error e⟩] ∧ y.memo.get? q.key = none) ∨
    (y.calls ≠ x.calls ++ [⟨q, x.own, .error e⟩] ∧
      ∃ l, y.memo.get? q.key = some l ∧ l.kind ≠ kind ∧ e = .unexpectedKind kind l.kind) := by
  rw [ask, Memo.listOf_eq, checked_eq_error_iff] at h
  rcases lookup_cases c x (Query.of kind ns selector) with ⟨l, -, hok, hkept, hcalls⟩ | ⟨-, -, hkept, hcalls⟩
  · rcases h with herror | ⟨m, hm, hkind, he⟩
    · cases hok.symm.trans herror
    · cases hok.symm.trans hm
      exact .inr ⟨by simp [hcalls], l, hkept, hkind, he⟩
  · rcases h with herror | ⟨l, hl, hkind, he⟩
    · rw [herror] at hkept hcalls
      exact .inl ⟨hcalls, hkept⟩
    · rw [hl] at hkept hcalls
      exact .inr ⟨by simp [hcalls], l, hkept, hkind, he⟩

theorem ask_of_kept {kind : Kind} {ns : Option String} {selector : String} {l : ObjectList}
    (hkept : x.memo.get? (Query.of kind ns selector).key = some l) (hkind : l.kind ≠ kind) :
    (ask c x kind ns selector).1 = .error (.unexpectedKind kind l.kind) := by
  rw [ask, Memo.listOf_eq, checked_eq_error_iff]
  rcases lookup_cases c x (Query.of kind ns selector) with ⟨m, hm, hok, -⟩ | ⟨hnone, -⟩
  · cases hkept.symm.trans hm
    exact .inr ⟨l, hok, hkind, rfl⟩
  · cases hkept.symm.trans hnone

/-- A question by kind that failed reaches the client when it is put again, with no lookup under its key in between, if
the memory was flushed since or the failure was the client's own, and only then. Otherwise it fails in the same way, for
the list of another kind that is kept. -/
theorem repeated_question_reaches_client_iff (c : Client σ) (s : σ) (before between : List (Operation σ)) (kind : Kind)
    (ns : Option String) (selector : String) {e : Failure}
    (hanswer : (ask c (run c s before) kind ns selector).1 = .error e)
    (hbetween : ∀ q, .list q ∈ between → q.key ≠ (Query.of kind ns selector).key) :
    let q := Query.of kind ns selector
    let x := run c s before
    let y := run c s (before ++ .list q :: between)
    (Reaches c y q ↔ .flush ∈ between ∨ (step c x (.list q)).calls = x.calls ++ [⟨q, x.own, .error e⟩]) ∧
    (¬Reaches c y q → (ask c y kind ns selector).1 = .error e ∧
      ∃ l, y.memo.get? q.key = some l ∧ l.kind ≠ kind ∧ e = .unexpectedKind kind l.kind) := by
  intro q x y
  have hy : y = between.foldl (step c) (step c x (.list q)) := by
    simp only [y, x, run, List.foldl_append, List.foldl_cons]
  have hkept (l : ObjectList) :
      y.memo.get? q.key = some l ↔ .flush ∉ between ∧ (step c x (.list q)).memo.get? q.key = some l :=
    hy ▸ get?_foldl_eq_some_iff hbetween l
  have hreaches (h : .flush ∈ between ∨ (step c x (.list q)).memo.get? q.key = none) : Reaches c y q := by
    refine (reaches_iff c y q).mpr (Option.eq_none_iff_forall_ne_some.mpr fun l hl => ?_)
    obtain ⟨hflush, hl⟩ := (hkept l).mp hl
    rcases h with h | h
    · exact hflush h
    · cases h.symm.trans hl
  rcases ask_eq_error hanswer with ⟨hcalls, hnone⟩ | ⟨hcalls, l, hl, hkind, he⟩
  · exact ⟨iff_of_true (hreaches (.inr hnone)) (.inr hcalls), fun h => absurd (hreaches (.inr hnone)) h⟩
  · by_cases hflush : .flush ∈ between
    · exact ⟨iff_of_true (hreaches (.inl hflush)) (.inl hflush), fun h => absurd (hreaches (.inl hflush)) h⟩
    · have hyl : y.memo.get? q.key = some l := (hkept l).mpr ⟨hflush, hl⟩
      have hnot : ¬Reaches c y q := by
        rw [reaches_iff, hyl]
        exact Option.some_ne_none l
      exact ⟨iff_of_false hnot (not_or.mpr ⟨hflush, hcalls⟩), fun _ => ⟨he ▸ ask_of_kept hyl hkind, l, hyl, hkind, he⟩⟩

/-- The client that has a list of nodes for every question, once it is up. -/
def nodesOnceUp : Client Bool where
  list q up := (if up then .ok ⟨.nodes, []⟩ else .error (.request q.kind), up)

theorem nodes_for_pods_are_kept :
    let q := Query.of .pods none ""
    (((ask nodesOnceUp (run nodesOnceUp true []) .pods none "").1 = .error (.unexpectedKind .pods .nodes) ∧
        (∀ r, .list r ∈ [Operation.change not] → r.key ≠ q.key)) ∧
      ¬Reaches nodesOnceUp (run nodesOnceUp true [.list q, .change not]) q ∧
      (ask nodesOnceUp (run nodesOnceUp true [.list q, .change not]) .pods none "").1 =
        .error (.unexpectedKind .pods .nodes)) ∧
    Reaches nodesOnceUp (run nodesOnceUp true [.list q, .flush]) q ∧
    Reaches nodesOnceUp (run nodesOnceUp false [.list q, .change not]) q := by
  intro q
  have hkind : (ask nodesOnceUp (run nodesOnceUp true []) .pods none "").1 = .error (.unexpectedKind .pods .nodes) :=
    rfl
  have hown : (ask nodesOnceUp (run nodesOnceUp false []) .pods none "").1 = .error (.request .pods) := rfl
  have hchange : ∀ r, .list r ∈ [Operation.change not] → r.key ≠ q.key := by simp
  have hflush : ∀ r, .list r ∈ [Operation.flush (σ := Bool)] → r.key ≠ q.key := by simp
  obtain ⟨hkept, hagain⟩ := repeated_question_reaches_client_iff nodesOnceUp true [] _ .pods none "" hkind hchange
  have hnot : ¬Reaches nodesOnceUp (run nodesOnceUp true [.list q, .change not]) q := by
    exact mt hkept.mp (not_or.mpr ⟨by simp, nofun⟩)
  refine ⟨⟨⟨hkind, hchange⟩, hnot, (hagain hnot).1⟩, ?_, ?_⟩
  · exact (repeated_question_reaches_client_iff nodesOnceUp true [] _ .pods none "" hkind hflush).1.mpr
      (.inl List.mem_cons_self)
  · exact (repeated_question_reaches_client_iff nodesOnceUp false [] _ .pods none "" hown hchange).1.mpr (.inr rfl)

/-- Not every question by kind that failed reaches the client when it is put again. -/
theorem failed_question_need_not_reach_client :
    ¬∀ (σ : Type) (c : Client σ) (s : σ) (ops : List (Operation σ)) (kind : Kind) (ns : Option String)
      (selector : String) (e : Failure), (ask c (run c s ops) kind ns selector).1 = .error e →
        Reaches c (run c s (ops ++ [.list (Query.of kind ns selector)])) (Query.of kind ns selector) := by
  intro h
  have hreaches := h Bool nodesOnceUp true [] .pods none "" _ rfl
  rw [reaches_iff] at hreaches
  cases hreaches

end Session

end Stencil.Cluster
