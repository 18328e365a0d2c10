import Stencil.Proofs.Upkeep.Keeping
import Stencil.Upkeep.Supervision

set_option autoImplicit false
set_option relaxedAutoImplicit false

/-!
What may happen, and in which order, where keepers are supervised: requests come in, the supervisor takes its
turns, keepers that were launched move, and others change the site. Nothing says which of these comes next. Main
statements: whatever the supervisor and the current keeper do as one actor is such a course of happenings, and
what every happening keeps holds after every course.
-/

namespace Stencil.Upkeep

open Stencil.Filesystem

variable {ρ σ : Type}

abbrev Situation (ρ σ : Type) := Supervision (Keeper ρ) × Site σ

/-- Something that happens. Somebody asks for something, or nobody will ask any more. The supervisor hears the next
request, or that there will be none; the keeper that it wants has been built or could not be; the current keeper
has made room for the next, or has ended. The current keeper moves, or one that has retired does. Or others change
the site. -/
inductive Happening (ρ σ : Type)
  | asks (c : Control)
  | closes
  | hears (c? : Option Control)
  | builds (p? : Option (Pipeline ρ))
  | handsOver
  | ends
  | works (faults : AtomicWrite.Faults)
  | stirs (i : Nat) (faults : AtomicWrite.Faults)
  | elsewhere (y : Site σ)

namespace Situation

/-- The situation after something has happened, if that is possible. -/
def happen? (l : Link ρ σ) : Happening ρ σ → Situation ρ σ → Option (Situation ρ σ)
  | .asks c, (s, x) => if s.isClosed then none else some (s.ask c, x)
  | .closes, (s, x) => some (s.close, x)
  | .hears c?, (s, x) =>
    match s.duty with
    | .listening =>
      if s.inbox.head? = c? then (s.turn? (Keeper.handling l) fun _ => none).map (·, x) else none
    | _ => none
  | .builds p?, (s, x) =>
    match s.duty with
    | .building => (s.turn? (Keeper.handling l) fun _ => p?.map Keeper.ofPipeline).map (·, x)
    | _ => none
  | .handsOver, (s, x) =>
    match s.duty with
    | .handingOver _ => (s.turn? (Keeper.handling l) fun _ => none).map (·, x)
    | _ => none
  | .ends, (s, x) =>
    match s.duty with
    | .ending => (s.turn? (Keeper.handling l) fun _ => none).map (·, x)
    | _ => none
  | .works faults, (s, x) =>
    (Keeper.moveUnder? l faults (s.current, x)).map fun m => ({ s with current := m.1 }, m.2)
  | .stirs i faults, (s, x) =>
    s.retired[i]?.bind fun k =>
      (Keeper.moveUnder? l faults (k, x)).map fun m => ({ s with retired := s.retired.set i m.1 }, m.2)
  | .elsewhere y, (s, _) => some (s, y)

/-- The situation after several happenings, if each of them is possible. -/
def run? (l : Link ρ σ) (es : List (Happening ρ σ)) (m : Situation ρ σ) : Option (Situation ρ σ) :=
  es.foldlM (fun m e => happen? l e m) m

/-- A course of happenings, in which others change the site only as they may. -/
inductive Course (l : Link ρ σ) (others : Site σ → Site σ → Prop) :
    Situation ρ σ → List (Happening ρ σ) → Situation ρ σ → Prop
  | nil (m : Situation ρ σ) : Course l others m [] m
  | cons {m m' m'' : Situation ρ σ} {e : Happening ρ σ} {es : List (Happening ρ σ)} :
      happen? l e m = some m' → (∀ y, e = .elsewhere y → others m.2 y) → Course l others m' es m'' →
      Course l others m (e :: es) m''

/-- The happenings one by one: when each is possible, and what it leads to. -/
inductive Happens (l : Link ρ σ) : Happening ρ σ → Situation ρ σ → Situation ρ σ → Prop
  | asks {s : Supervision (Keeper ρ)} (c : Control) (x : Site σ) :
      s.isClosed = false → Happens l (.asks c) (s, x) (s.ask c, x)
  | closes (s : Supervision (Keeper ρ)) (x : Site σ) : Happens l .closes (s, x) (s.close, x)
  | hearsReload {s : Supervision (Keeper ρ)} {rest : List Control} (x : Site σ) :
      s.duty = .listening → s.inbox = .reload :: rest →
      Happens l (.hears (some .reload)) (s, x)
        ({ s with inbox := rest, calls := s.calls + 1, duty := .building }, x)
  | hearsStop {s : Supervision (Keeper ρ)} {rest : List Control} (x : Site σ) :
      s.duty = .listening → s.inbox = .stop :: rest →
      Happens l (.hears (some .stop)) (s, x) ({ s with inbox := rest }.wind (Keeper.handling l), x)
  | hearsClosure {s : Supervision (Keeper ρ)} (x : Site σ) :
      s.duty = .listening → s.inbox = [] → s.isClosed = true →
      Happens l (.hears none) (s, x) (s.wind (Keeper.handling l), x)
  | builds {s : Supervision (Keeper ρ)} (p : Pipeline ρ) (x : Site σ) :
      s.duty = .building →
      Happens l (.builds (some p)) (s, x)
        ({ s with current := Keeper.stop l s.current, duty := .handingOver (Keeper.ofPipeline p) }, x)
  | cannotBuild {s : Supervision (Keeper ρ)} (x : Site σ) :
      s.duty = .building → Happens l (.builds none) (s, x) ({ s with duty := .listening }, x)
  | handsOver {s : Supervision (Keeper ρ)} {next : Keeper ρ} (x : Site σ) :
      s.duty = .handingOver next → s.current.isDone = true →
      Happens l .handsOver (s, x)
        ({ s with retired := s.retired ++ [s.current], current := next, duty := .listening }, x)
  | ends {s : Supervision (Keeper ρ)} (x : Site σ) :
      s.duty = .ending → s.current.isDone = true → Happens l .ends (s, x) ({ s with duty := .ended }, x)
  | works {s : Supervision (Keeper ρ)} {faults : AtomicWrite.Faults} {k : Keeper ρ} {x y : Site σ} :
      Keeper.moveUnder? l faults (s.current, x) = some (k, y) →
      Happens l (.works faults) (s, x) ({ s with current := k }, y)
  | stirs {s : Supervision (Keeper ρ)} {i : Nat} {faults : AtomicWrite.Faults} {k k' : Keeper ρ}
      {x y : Site σ} : s.retired[i]? = some k → Keeper.moveUnder? l faults (k, x) = some (k', y) →
      Happens l (.stirs i faults) (s, x) ({ s with retired := s.retired.set i k' }, y)
  | elsewhere (s : Supervision (Keeper ρ)) (x y : Site σ) : Happens l (.elsewhere y) (s, x) (s, y)

section Inversion

variable {l : Link ρ σ} {others : Site σ → Site σ → Prop} {m m' m'' : Situation ρ σ} {e : Happening ρ σ}
  {es es' : List (Happening ρ σ)}

/-- What a supervisor does in a turn that it can take. -/
def turning (factory : Nat → Option (Pipeline ρ)) (s : Supervision (Keeper ρ)) : Happening ρ σ :=
  match s.duty with
  | .listening => .hears s.inbox.head?
  | .building => .builds (factory s.calls)
  | .handingOver _ => .handsOver
  | .ending | .ended => .ends

theorem happens_of_turn? {s s' : Supervision (Keeper ρ)} {factory : Nat → Option (Pipeline ρ)}
    (h : s.turn? (Keeper.handling l) (fun n => (factory n).map Keeper.ofPipeline) = some s') (x : Site σ) :
    Happens l (turning factory s) (s, x) (s', x) := by
  rw [Supervision.turn?] at h
  cases hd : s.duty with
  | listening =>
    rw [hd] at h
    rw [turning, hd]
    dsimp only at h ⊢
    split at h
    · next hi =>
      cases h
      rw [hi]
      exact .hearsReload x hd hi
    · next hi =>
      cases h
      rw [hi]
      exact .hearsStop x hd hi
    · next hi =>
      split at h
      · next hc =>
        cases h
        rw [hi]
        exact .hearsClosure x hd hi hc
      · cases h
  | building =>
    rw [hd] at h
    rw [turning, hd]
    dsimp only at h ⊢
    cases hf : factory s.calls with
    | none =>
      rw [hf] at h
      cases h
      exact .cannotBuild x hd
    | some p =>
      rw [hf] at h
      cases h
      exact .builds p x hd
  | handingOver next =>
    rw [hd] at h
    rw [turning, hd]
    obtain ⟨hdone, h⟩ := Option.ite_none_right_eq_some.mp h
    cases h
    exact .handsOver x hd hdone
  | ending =>
    rw [hd] at h
    rw [turning, hd]
    obtain ⟨hdone, h⟩ := Option.ite_none_right_eq_some.mp h
    cases h
    exact .ends x hd hdone
  | ended =>
    rw [hd] at h
    cases h

theorem happens_of_happen? (h : happen? l e m = some m') : Happens l e m m' := by
  obtain ⟨s, x⟩ := m
  -- where the supervisor takes a turn, what it does then is what happens
  have hturns : ∀ {f : Nat → Option (Pipeline ρ)}, turning f s = e →
      (s.turn? (Keeper.handling l) fun n => (f n).map Keeper.ofPipeline).map (·, x) = some m' →
      Happens l e (s, x) m' := by
    rintro f rfl ht
    obtain ⟨s', hs', rfl⟩ := Option.map_eq_some_iff.mp ht
    exact happens_of_turn? hs' x
  cases e with
  | asks c =>
    obtain ⟨hc, h⟩ := Option.ite_none_left_eq_some.mp h
    cases h
    exact .asks c x (Bool.not_eq_true _ ▸ hc)
  | closes =>
    cases h
    exact .closes s x
  | hears c? =>
    rw [happen?] at h
    split at h
    · next hd =>
      obtain ⟨hc, h⟩ := Option.ite_none_right_eq_some.mp h
      exact hturns (f := fun _ => none) (by rw [turning, hd, ← hc]) h
    · cases h
  | builds p? =>
    rw [happen?] at h
    split at h
    · next hd => exact hturns (f := fun _ => p?) (by rw [turning, hd]) h
    · cases h
  | handsOver =>
    rw [happen?] at h
    split at h
    · next hd => exact hturns (f := fun _ => none) (by rw [turning, hd]) h
    · cases h
  | ends =>
    rw [happen?] at h
    split at h
    · next hd => exact hturns (f := fun _ => none) (by rw [turning, hd]) h
    · cases h
  | works faults =>
    obtain ⟨⟨k, y⟩, hm, he⟩ := Option.map_eq_some_iff.mp h
    cases he
    exact .works hm
  | stirs i faults =>
    obtain ⟨k, hk, h⟩ := Option.bind_eq_some_iff.mp h
    obtain ⟨⟨k', y⟩, hm, he⟩ := Option.map_eq_some_iff.mp h
    cases he
    exact .stirs hk hm
  | elsewhere y =>
    cases h
    exact .elsewhere s x y

theorem Happens.happen?_eq (h : Happens l e m m') : happen? l e m = some m' := by
  cases h with
  | asks c x hc => simp [happen?, hc]
  | closes s x => rfl
  | hearsReload x hd hi => simp [happen?, Supervision.turn?, hd, hi]
  | hearsStop x hd hi => simp [happen?, Supervision.turn?, hd, hi]
  | hearsClosure x hd hi hc => simp [happen?, Supervision.turn?, hd, hi, hc]
  | builds p x hd => simp [happen?, Supervision.turn?, hd, Keeper.handling]
  | cannotBuild x hd => simp [happen?, Supervision.turn?, hd]
  | handsOver x hd hdone => simp [happen?, Supervision.turn?, hd, hdone, Keeper.handling]
  | ends x hd hdone => simp [happen?, Supervision.turn?, hd, hdone, Keeper.handling]
  | works hm => simp [happen?, hm]
  | stirs hk hm => simp [happen?, hk, hm]
  | elsewhere s x y => rfl

theorem Course.append (h : Course l others m es m') (h' : Course l others m' es' m'') :
    Course l others m (es ++ es') m'' := by
  induction h with
  | nil _ => exact h'
  | cons he ho _ ih => exact .cons he ho (ih h')

theorem Course.exists_between (h : Course l others m (es ++ es') m'') :
    ∃ m', Course l others m es m' ∧ Course l others m' es' m'' := by
  induction es generalizing m with
  | nil => exact ⟨m, .nil m, h⟩
  | cons e es ih =>
    cases h with
    | cons he ho h =>
      obtain ⟨m', hes, hes'⟩ := ih h
      exact ⟨m', .cons he ho hes, hes'⟩

theorem Course.unique {n : Situation ρ σ} (h : Course l others m es m') (h' : Course l others m es n) :
    m' = n := by
  induction h with
  | nil _ =>
    cases h'
    rfl
  | cons he _ _ ih =>
    cases h' with
    | cons he' _ h' =>
      cases he.symm.trans he'
      exact ih h'

theorem Course.keeps {P : Situation ρ σ → Prop} (h : Course l others m es m')
    (hstep : ∀ {e m m'}, e ∈ es → Happens l e m m' → (∀ y, e = .elsewhere y → others m.2 y) → P m → P m')
    (hm : P m) : P m' := by
  induction h with
  | nil _ => exact hm
  | cons he ho _ ih =>
    exact ih (fun hmem => hstep (List.mem_cons_of_mem _ hmem))
      (hstep List.mem_cons_self (happens_of_happen? he) ho hm)

theorem course_of_run? (h : run? l es m = some m') (hown : ∀ y, .elsewhere y ∉ es) :
    Course l others m es m' := by
  induction es generalizing m with
  | nil =>
    cases h
    exact .nil _
  | cons e es ih =>
    rw [run?, List.foldlM_cons] at h
    obtain ⟨n, he, h⟩ := Option.bind_eq_some_iff.mp h
    refine .cons he (fun y hy => ?_) (ih h fun y hy => hown y (List.mem_cons_of_mem _ hy))
    exact absurd (hy ▸ List.mem_cons_self) (hown y)

end Inversion

section Actor

variable {l : Link ρ σ} {m m' : Situation ρ σ} {factory : Nat → Site σ → Option (Pipeline ρ)}

/-- A supervisor whose factory builds pipelines, with its current keeper. -/
def actor (l : Link ρ σ) (factory : Nat → Site σ → Option (Pipeline ρ)) : Actor (Supervision (Keeper ρ)) σ :=
  Supervision.actor (Keeper.handling l) (fun n x => (factory n x).map Keeper.ofPipeline) (Keeper.actor l)

theorem happens_of_move? (h : (actor l factory).move? m = some m') : ∃ e, Happens l e m m' := by
  obtain ⟨s, x⟩ := m
  simp only [actor, Supervision.actor] at h
  split at h
  · next s' ht =>
    cases h
    exact ⟨_, happens_of_turn? ht x⟩
  · obtain ⟨⟨k, y⟩, hm, he⟩ := Option.map_eq_some_iff.mp h
    cases he
    exact ⟨_, .works hm⟩

theorem course_of_step? {limit : Option Nat} (h : (actor l factory).step? limit m = some m') :
    ∃ es, Course l (fun _ _ => True) m es m' := by
  have hmoved : ∃ es, Course l (fun _ _ => True) m es (((actor l factory).move? m).getD m) := by
    cases hm : (actor l factory).move? m with
    | none => exact ⟨[], .nil m⟩
    | some n =>
      obtain ⟨e, he⟩ := happens_of_move? hm
      exact ⟨[e], .cons he.happen?_eq (fun _ _ => trivial) (.nil n)⟩
  have helse : ∀ (n : Situation ρ σ) (y : Site σ),
      Course l (fun _ _ => True) n [.elsewhere y] (n.1, y) := fun n y =>
    .cons rfl (fun _ _ => trivial) (.nil _)
  obtain ⟨es, hes⟩ := hmoved
  rw [Actor.step?] at h
  dsimp only at h
  split at h
  · cases h
    exact ⟨_, hes.append (helse _ _)⟩
  · split at h
    · next hm =>
      rw [hm] at hes
      cases h
      exact ⟨es, hes⟩
    · split at h
      all_goals
        split at h
        · cases h
        · cases h
          exact ⟨_, hes.append (helse _ _)⟩
    · cases h

end Actor

end Situation

end Stencil.Upkeep
