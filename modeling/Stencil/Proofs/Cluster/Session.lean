import Mathlib.Data.Finset.Card
import Stencil.Proofs.Cluster.Memo

set_option autoImplicit false
set_option relaxedAutoImplicit false

/-!
A memory in use: lookups and flushes in any order, in front of a client that may answer differently or fail at
any time. What is noted of the lookups and of the calls that reach the client is forgotten at a flush, together
with the answers. Main statement: under each key the client is called for the lookups up to the first success
and for none after it, the later lookups are all answered by that success, and the memory counts the keys that
had one.
-/

namespace Stencil.Cluster

/-- A question, the state that the client was in when it was put, and the answer. -/
structure Exchange (σ : Type) where
  query : Query
  own : σ
  answer : Except Failure ObjectList

namespace Exchange

variable {σ : Type}

def success? (e : Exchange σ) : Option ObjectList :=
  match e.answer with
  | .ok l => some l
  | .error _ => none

def under (key : String) (es : List (Exchange σ)) : List (Exchange σ) :=
  es.filter fun e => e.query.key = key

def firstSuccess? (es : List (Exchange σ)) : Option ObjectList := es.findSome? success?

def untilSuccess : List (Exchange σ) → List (Exchange σ)
  | [] => []
  | e :: rest => if e.success?.isSome then [e] else e :: untilSuccess rest

def afterSuccess : List (Exchange σ) → List (Exchange σ)
  | [] => []
  | e :: rest => if e.success?.isSome then rest else afterSuccess rest

theorem success?_eq_some_iff (e : Exchange σ) (l : ObjectList) : e.success? = some l ↔ e.answer = .ok l := by
  rw [success?]
  cases e.answer <;> simp

theorem under_append_self {key : String} {e : Exchange σ} (h : e.query.key = key) (es : List (Exchange σ)) :
    under key (es ++ [e]) = under key es ++ [e] := by
  simp [under, h]

theorem under_append_ne {key : String} {e : Exchange σ} (h : e.query.key ≠ key) (es : List (Exchange σ)) :
    under key (es ++ [e]) = under key es := by
  simp [under, h]

theorem untilSuccess_append_of_none {es : List (Exchange σ)} (h : firstSuccess? es = none)
    (fs : List (Exchange σ)) : untilSuccess (es ++ fs) = es ++ untilSuccess fs := by
  induction es with
  | nil => rfl
  | cons e rest ih =>
    obtain ⟨he, hrest⟩ := List.forall_mem_cons.mp (List.findSome?_eq_none_iff.mp h)
    have hr : firstSuccess? rest = none := List.findSome?_eq_none_iff.mpr hrest
    rw [List.cons_append, untilSuccess, if_neg (by simp [he]), ih hr, List.cons_append]

theorem afterSuccess_append_of_none {es : List (Exchange σ)} (h : firstSuccess? es = none)
    (fs : List (Exchange σ)) : afterSuccess (es ++ fs) = afterSuccess fs := by
  induction es with
  | nil => rfl
  | cons e rest ih =>
    obtain ⟨he, hrest⟩ := List.forall_mem_cons.mp (List.findSome?_eq_none_iff.mp h)
    have hr : firstSuccess? rest = none := List.findSome?_eq_none_iff.mpr hrest
    rw [List.cons_append, afterSuccess, if_neg (by simp [he]), ih hr]

theorem untilSuccess_singleton (e : Exchange σ) : untilSuccess [e] = [e] := by
  rw [untilSuccess, untilSuccess, ite_self]

theorem afterSuccess_singleton (e : Exchange σ) : afterSuccess [e] = [] := by
  rw [afterSuccess, afterSuccess, ite_self]

theorem untilSuccess_append_of_some {es : List (Exchange σ)} {l : ObjectList} (h : firstSuccess? es = some l)
    (fs : List (Exchange σ)) : untilSuccess (es ++ fs) = untilSuccess es := by
  induction es with
  | nil => cases h
  | cons e rest ih =>
    rw [firstSuccess?, List.findSome?_cons] at h
    rw [List.cons_append, untilSuccess, untilSuccess]
    cases he : e.success? with
    | some m => rfl
    | none =>
      rw [he] at h
      rw [if_neg (by simp), if_neg (by simp), ih h]

theorem afterSuccess_append_of_some {es : List (Exchange σ)} {l : ObjectList} (h : firstSuccess? es = some l)
    (fs : List (Exchange σ)) : afterSuccess (es ++ fs) = afterSuccess es ++ fs := by
  induction es with
  | nil => cases h
  | cons e rest ih =>
    rw [firstSuccess?, List.findSome?_cons] at h
    rw [List.cons_append, afterSuccess, afterSuccess]
    cases he : e.success? with
    | some m => rfl
    | none =>
      rw [he] at h
      rw [if_neg (by simp), if_neg (by simp), ih h]

theorem untilSuccess_append_afterSuccess (es : List (Exchange σ)) :
    untilSuccess es ++ afterSuccess es = es := by
  induction es with
  | nil => rfl
  | cons e rest ih =>
    rw [untilSuccess, afterSuccess]
    split
    · rfl
    · rw [List.cons_append, ih]

theorem exists_firstSuccess_of_mem_afterSuccess {es : List (Exchange σ)} {e : Exchange σ}
    (h : e ∈ afterSuccess es) : ∃ l, firstSuccess? es = some l := by
  cases hfirst : firstSuccess? es with
  | some l => exact ⟨l, rfl⟩
  | none =>
    rw [← List.append_nil es, afterSuccess_append_of_none hfirst] at h
    exact absurd h List.not_mem_nil

/-- The lookups under one key, the calls that they led to, and the answer that is kept. -/
structure Course (lookups calls : List (Exchange σ)) (kept : Option ObjectList) : Prop where
  kept : kept = firstSuccess? lookups
  calls : calls = untilSuccess lookups
  later : ∀ l, firstSuccess? lookups = some l → ∀ e ∈ afterSuccess lookups, e.answer = .ok l

theorem Course.nil : Course ([] : List (Exchange σ)) [] none := ⟨rfl, rfl, nofun⟩

theorem Course.answered {lookups calls : List (Exchange σ)} {l : ObjectList} (h : Course lookups calls (some l))
    {e : Exchange σ} (he : e.answer = .ok l) : Course (lookups ++ [e]) calls (some l) := by
  have hfirst : firstSuccess? lookups = some l := h.kept.symm
  have hkept : firstSuccess? (lookups ++ [e]) = some l := by
    rw [firstSuccess?, List.findSome?_append]
    exact congrArg (Option.or · _) hfirst
  refine ⟨hkept.symm, ?_, fun m hm f hf => ?_⟩
  · rw [untilSuccess_append_of_some hfirst]
    exact h.calls
  · obtain rfl : l = m := Option.some.inj (hkept.symm.trans hm)
    rw [afterSuccess_append_of_some hfirst, List.mem_append, List.mem_singleton] at hf
    rcases hf with hf | rfl
    · exact h.later l hfirst f hf
    · exact he

theorem Course.called {lookups calls : List (Exchange σ)} (h : Course lookups calls none) (e : Exchange σ) :
    Course (lookups ++ [e]) (calls ++ [e]) e.success? := by
  have hnone : firstSuccess? lookups = none := h.kept.symm
  have hcalls : calls = lookups := by
    rw [h.calls, ← List.append_nil lookups, untilSuccess_append_of_none hnone, untilSuccess]
  refine ⟨?_, ?_, fun m _ f hf => ?_⟩
  · rw [firstSuccess?, List.findSome?_append, List.findSome?_singleton]
    exact (congrArg (Option.or · e.success?) hnone).symm
  · rw [untilSuccess_append_of_none hnone, untilSuccess_singleton, hcalls]
  · rw [afterSuccess_append_of_none hnone, afterSuccess_singleton] at hf
    exact absurd hf List.not_mem_nil

end Exchange

/-- The client that notes every call, in order. -/
def Client.recording {σ : Type} (c : Client σ) : Client (σ × List (Exchange σ)) where
  list q := fun (s, calls) =>
    let (answer, t) := c.list q s
    (answer, t, calls ++ [⟨q, s, answer⟩])

theorem Client.recording_list {σ : Type} {c : Client σ} {q : Query} {s : σ} {calls : List (Exchange σ)}
    {answer : Except Failure ObjectList} {t : σ × List (Exchange σ)}
    (h : c.recording.list q (s, calls) = (answer, t)) :
    answer = (c.list q s).1 ∧ t = ((c.list q s).2, calls ++ [⟨q, s, answer⟩]) := by
  obtain ⟨rfl, rfl⟩ := Prod.mk.inj h
  exact ⟨rfl, rfl⟩

/-- What happens to a memory: a lookup, a flush, or a change of the cluster behind it. -/
inductive Operation (σ : Type)
  | list (q : Query)
  | flush
  | change (f : σ → σ)

/-- A memory and the state of its client, with the lookups and the calls of the client since the last flush. -/
structure Session (σ : Type) where
  memo : Memo
  own : σ
  lookups : List (Exchange σ)
  calls : List (Exchange σ)

namespace Session

open Exchange

variable {σ : Type}

def fresh (s : σ) : Session σ := ⟨.empty, s, [], []⟩

def step (c : Client σ) (x : Session σ) : Operation σ → Session σ
  | .list q =>
    let (answer, memo, own, calls) := Memo.list c.recording q (x.memo, x.own, x.calls)
    ⟨memo, own, x.lookups ++ [⟨q, x.own, answer⟩], calls⟩
  | .flush => fresh x.own
  | .change f => { x with own := f x.own }

def run (c : Client σ) (s : σ) (ops : List (Operation σ)) : Session σ := ops.foldl (step c) (fresh s)

/-- What holds of a session at any time: every key has its course, and the calls have the answers that the
client gives. -/
structure Sound (c : Client σ) (x : Session σ) : Prop where
  course : ∀ key, Course (under key x.lookups) (under key x.calls) (x.memo.get? key)
  answer : ∀ e ∈ x.calls, e.answer = (c.list e.query e.own).1

theorem sound_fresh (c : Client σ) (s : σ) : Sound c (fresh s) where
  course _ := .nil
  answer _ he := absurd he List.not_mem_nil

theorem Sound.answered {c : Client σ} {x : Session σ} (h : Sound c x) {e : Exchange σ} {l : ObjectList}
    (he : e.answer = .ok l) (hkept : x.memo.get? e.query.key = some l) {m : Memo}
    (hm : m.get? = x.memo.get?) : Sound c ⟨m, x.own, x.lookups ++ [e], x.calls⟩ := by
  refine ⟨fun key => ?_, h.answer⟩
  have hcourse := h.course key
  change Course (under key (x.lookups ++ [e])) (under key x.calls) (m.get? key)
  rw [hm]
  by_cases hk : e.query.key = key
  · subst hk
    rw [under_append_self rfl, hkept]
    rw [hkept] at hcourse
    exact hcourse.answered he
  · rw [under_append_ne hk]
    exact hcourse

theorem Sound.called {c : Client σ} {x : Session σ} (h : Sound c x) {e : Exchange σ}
    (he : e.answer = (c.list e.query e.own).1) (hkept : x.memo.get? e.query.key = none) {m : Memo}
    (hm : m.get? = Function.update x.memo.get? e.query.key e.success?) (t : σ) :
    Sound c ⟨m, t, x.lookups ++ [e], x.calls ++ [e]⟩ := by
  constructor
  · intro key
    have hcourse := h.course key
    change Course (under key (x.lookups ++ [e])) (under key (x.calls ++ [e])) (m.get? key)
    rw [hm]
    by_cases hk : e.query.key = key
    · subst hk
      rw [under_append_self rfl, under_append_self rfl, Function.update_self]
      rw [hkept] at hcourse
      exact hcourse.called e
    · rw [under_append_ne hk, under_append_ne hk, Function.update_of_ne (Ne.symm hk)]
      exact hcourse
  · intro f hf
    rcases List.mem_append.mp hf with hf | hf
    · exact h.answer f hf
    · obtain rfl := List.mem_singleton.mp hf
      exact he

theorem sound_list {c : Client σ} {x : Session σ} (h : Sound c x) (q : Query) :
    Sound c (step c x (.list q)) := by
  have hlookup := Memo.lookup_list c.recording q x.memo (x.own, x.calls)
  rw [step]
  generalize Memo.list c.recording q (x.memo, x.own, x.calls) = r at hlookup ⊢
  cases hlookup with
  | hit hkept hm => exact h.answered rfl hkept hm
  | @fetched l m t hnone hcall hm =>
    obtain ⟨hanswer, rfl⟩ := Client.recording_list hcall
    exact h.called (e := ⟨q, x.own, .ok l⟩) hanswer hnone hm _
  | @failed f m t hnone hcall hm =>
    obtain ⟨hanswer, rfl⟩ := Client.recording_list hcall
    refine h.called (e := ⟨q, x.own, .error f⟩) hanswer hnone ?_ _
    -- the cell of a failure is empty, and an update by no answer is none
    change m.get? = Function.update x.memo.get? q.key none
    rw [hm, ← hnone, Function.update_eq_self]

theorem sound_step {c : Client σ} {x : Session σ} (h : Sound c x) (op : Operation σ) :
    Sound c (step c x op) := by
  cases op with
  | list q => exact sound_list h q
  | flush => exact sound_fresh c x.own
  | change f => exact ⟨h.course, h.answer⟩

theorem sound_run (c : Client σ) (s : σ) (ops : List (Operation σ)) : Sound c (run c s ops) :=
  List.foldlRecOn ops (step c) (sound_fresh c s) fun _ h op _ => sound_step h op

def successfulKeys (es : List (Exchange σ)) : Finset String :=
  ((es.filter fun e => e.success?.isSome).map fun e => e.query.key).toFinset

theorem mem_successfulKeys_iff (es : List (Exchange σ)) (key : String) :
    key ∈ successfulKeys es ↔ (firstSuccess? (under key es)).isSome := by
  rw [successfulKeys, List.mem_toFinset, List.mem_map, firstSuccess?, List.findSome?_isSome_iff]
  constructor
  · rintro ⟨e, he, rfl⟩
    obtain ⟨hmem, hsuccess⟩ := List.mem_filter.mp he
    exact ⟨e, List.mem_filter.mpr ⟨hmem, decide_eq_true rfl⟩, hsuccess⟩
  · rintro ⟨e, he, hsuccess⟩
    obtain ⟨hmem, hkey⟩ := List.mem_filter.mp he
    exact ⟨e, List.mem_filter.mpr ⟨hmem, hsuccess⟩, of_decide_eq_true hkey⟩

theorem Sound.size_eq {c : Client σ} {x : Session σ} (h : Sound c x) :
    x.memo.size = (successfulKeys x.lookups).card := by
  have hkeys : x.memo.keys.toFinset = successfulKeys x.lookups := by
    ext key
    rw [List.mem_toFinset, Memo.mem_keys_iff, mem_successfulKeys_iff, (h.course key).kept]
  rw [← hkeys, List.toFinset_card_of_nodup x.memo.keys_nodup, Memo.size_eq_length_keys]

theorem Sound.called_or_later {c : Client σ} {x : Session σ} (h : Sound c x) {e : Exchange σ}
    (he : e ∈ x.lookups) : e ∈ x.calls ∨ e ∈ afterSuccess (under e.query.key x.lookups) := by
  have hmem : e ∈ under e.query.key x.lookups := List.mem_filter.mpr ⟨he, decide_eq_true rfl⟩
  rw [← untilSuccess_append_afterSuccess (under e.query.key x.lookups), List.mem_append,
    ← (h.course e.query.key).calls] at hmem
  exact hmem.imp_left fun hcall => (List.mem_filter.mp hcall).1

theorem Sound.failure {c : Client σ} {x : Session σ} (h : Sound c x) {e : Exchange σ} (he : e ∈ x.lookups)
    {f : Failure} (hf : e.answer = .error f) : (c.list e.query e.own).1 = .error f := by
  rcases h.called_or_later he with hcall | hlater
  · rw [← h.answer e hcall, hf]
  · obtain ⟨l, hl⟩ := exists_firstSuccess_of_mem_afterSuccess hlater
    have hok : e.answer = .ok l := (h.course e.query.key).later l hl e hlater
    rw [hf] at hok
    cases hok

/-- Since the last flush, the client was called for every lookup of a key up to the first success and for none
after it, whatever it answered; the later lookups were answered by that success, which is what is kept. A
failure that a lookup returned was the client's, and as many answers are kept as there are keys that had a
success. -/
theorem calls_end_at_first_success (c : Client σ) (s : σ) (ops : List (Operation σ)) :
    let x := run c s ops
    (∀ key,
      under key x.calls = untilSuccess (under key x.lookups) ∧
      (∀ l, firstSuccess? (under key x.lookups) = some l →
        ∀ e ∈ afterSuccess (under key x.lookups), e.answer = .ok l) ∧
      x.memo.get? key = firstSuccess? (under key x.lookups)) ∧
    (∀ e ∈ x.calls, e.answer = (c.list e.query e.own).1) ∧
    (∀ e ∈ x.lookups, ∀ f, e.answer = .error f → (c.list e.query e.own).1 = .error f) ∧
    x.memo.size = (successfulKeys x.lookups).card := by
  have h := sound_run c s ops
  refine ⟨fun key => ?_, h.answer, fun e he f hf => h.failure he hf, h.size_eq⟩
  exact ⟨(h.course key).calls, (h.course key).later, (h.course key).kept⟩

end Session

end Stencil.Cluster
