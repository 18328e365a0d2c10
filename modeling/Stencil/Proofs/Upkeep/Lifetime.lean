import Stencil.Proofs.Run
import Stencil.Proofs.Upkeep.Progress

set_option autoImplicit false
set_option relaxedAutoImplicit false

/-!
The life of one keeper. A stop may be asked for at any time, also while a tick is due, and time passes between any two
moves. Main statement: the rounds do not overlap; none begins once a stop was asked for, but the one in progress goes on
to a report of all that it had to do; without a clock there is exactly one; and the keeper comes to its end once, between
rounds, and does nothing after it.
-/

namespace Stencil.Upkeep

open Stencil.Filesystem

variable {ρ σ : Type}

namespace Keeper

/-- What may befall a keeper: a stop is asked for, it makes its next move, or others change the site, where time passes
as well. -/
inductive Incident (σ : Type)
  | asksStop
  | moves (faults : AtomicWrite.Faults)
  | elsewhere (y : Site σ)

def Incident.isMove : Incident σ → Bool
  | .moves _ => true
  | _ => false

/-- The keeper and its site after an incident, if that is possible. -/
def befall? (l : Link ρ σ) (m : Keeper ρ × Site σ) : Incident σ → Option (Keeper ρ × Site σ)
  | .asksStop => some (stop l m.1, m.2)
  | .moves faults => moveUnder? l faults m
  | .elsewhere y => some (m.1, y)

/-- The keeper and its site after several incidents, if each of them is possible. -/
def live? (l : Link ρ σ) (es : List (Incident σ)) (m : Keeper ρ × Site σ) : Option (Keeper ρ × Site σ) :=
  es.foldlM (befall? l) m

/-- What has become of a keeper after some incidents. -/
structure Lives (k : Keeper ρ) (es : List (Incident σ)) (k' : Keeper ρ) : Prop where
  sound : k'.Sound
  timely : k'.Timely
  becomes : Becomes k k'
  goesOn : GoesOn (es.countP Incident.isMove) k k'
  polls : k'.loop.polls = k.loop.polls
  asked : k'.loop.stopAsked = true ↔ k.loop.stopAsked = true ∨ .asksStop ∈ es

section Runs

variable {l : Link ρ σ} {k k' k'' : Keeper ρ} {m m' : Keeper ρ × Site σ} {e : Incident σ}
  {es es' : List (Incident σ)}

theorem lives_nil (hs : k.Sound) (ht : k.Timely) : Lives k ([] : List (Incident σ)) k :=
  ⟨hs, ht, becomes_of_loop rfl rfl, goesOn_of_loop rfl rfl, rfl, by simp⟩

theorem Lives.append (h : Lives k es k') (h' : Lives k' es' k'') : Lives k (es ++ es') k'' where
  sound := h'.sound
  timely := h'.timely
  becomes := h.becomes.trans h'.becomes
  goesOn := List.countP_append ▸ h.goesOn.trans h'.goesOn h'.becomes
  polls := h'.polls.trans h.polls
  asked := by rw [h'.asked, h.asked, List.mem_append, or_assoc]

theorem lives_of_befall? (hs : m.1.Sound) (ht : m.1.Timely) (h : befall? l m e = some m') :
    Lives m.1 [e] m'.1 := by
  cases e with
  | asksStop =>
    cases h
    exact ⟨hs.stop l, ht.stop l, becomes_stop l m.1, goesOn_of_loop rfl rfl, rfl, by simp [stop, Loop.askStop]⟩
  | moves faults =>
    have hmove : Move l faults m.1 m.2 m'.1 m'.2 := move_of_moveUnder? h
    refine ⟨hs.move hmove, ht.move hmove, hmove.becomes, hmove.goesOn hs, hmove.polls_eq, ?_⟩
    rw [hmove.stopAsked_eq]
    simp
  | elsewhere y =>
    cases h
    exact ⟨hs, ht, becomes_of_loop rfl rfl, goesOn_of_loop rfl rfl, rfl, by simp⟩

theorem lives_of_live? (hs : m.1.Sound) (ht : m.1.Timely) (h : live? l es m = some m') : Lives m.1 es m'.1 :=
  Run.induction (motive := fun es m' => Lives m.1 es m'.1) (lives_nil hs ht)
    (fun _ he hes => hes.append (lives_of_befall? hes.sound hes.timely he)) h

theorem live?_waits (h : live? l es m = some m') (hnone : ∀ faults, .moves faults ∉ es) :
    m'.1.stage? = m.1.stage? ∧ m'.1.loop.phase = m.1.loop.phase ∧ m'.1.loop.begun = m.1.loop.begun := by
  induction es generalizing m with
  | nil =>
    cases h
    exact ⟨rfl, rfl, rfl⟩
  | cons e es ih =>
    obtain ⟨z, he, hes⟩ := Option.bind_eq_some_iff.mp h
    have hz := ih hes fun faults hmem => hnone faults (List.mem_cons_of_mem _ hmem)
    cases e with
    | moves faults => exact absurd List.mem_cons_self (hnone faults)
    | asksStop | elsewhere =>
      cases he
      exact hz

theorem not_moves_of_isDone (hs : m.1.Sound) (ht : m.1.Timely) (hd : m.1.isDone = true)
    (h : live? l es m = some m') (faults : AtomicWrite.Faults) : .moves faults ∉ es := by
  intro hmem
  obtain ⟨as, bs, rfl⟩ := List.append_of_mem hmem
  obtain ⟨z, z', hz, hm, -⟩ := Run.exists_step_of_run h
  have hlives := lives_of_live? hs ht hz
  have hdone : z.1.isDone = true := isDone_iff.mpr (hlives.becomes.done (isDone_iff.mp hd))
  have hstuck : moveUnder? l faults z = none := (hlives.sound.finished hdone).moveUnder?_eq_none
  cases hstuck.symm.trans hm

theorem exists_last_move (h : live? l es m = some m') (hd : m.1.isDone = false) (hd' : m'.1.isDone = true) :
    ∃ as faults bs z z', es = as ++ .moves faults :: bs ∧ live? l as m = some z ∧ z.1.isDone = false ∧
      moveUnder? l faults z = some z' ∧ z'.1.isDone = true ∧ live? l bs z' = some m' := by
  induction es generalizing m with
  | nil =>
    cases h
    cases hd.symm.trans hd'
  | cons e es ih =>
    obtain ⟨z, he, hes⟩ := Option.bind_eq_some_iff.mp h
    cases hz : z.1.isDone with
    | false =>
      obtain ⟨as, faults, bs, w, w', rfl, has, hlast⟩ := ih hes hz
      refine ⟨e :: as, faults, bs, w, w', rfl, ?_, hlast⟩
      rw [live?, List.foldlM_cons, he]
      exact has
    | true =>
      cases e with
      | moves faults => exact ⟨[], faults, es, m, z, rfl, rfl, hd, he, hz, hes⟩
      | asksStop | elsewhere =>
        cases he
        cases hd.symm.trans hz

end Runs

/-- Whatever befalls a keeper from its start, until a later time and then until one after it. At most one round is in
progress. Once a stop was asked for, no other round begins. If the stop comes before the first move, there is none at
all; otherwise there is at least one, and exactly one without a clock. A round in progress goes on, unless it waits for
the cluster or its command, until it has ended with a report of all that was left to do. A keeper that was asked to stop
and is in no round comes to its end with its next move. It does so in one move, after a stop and when its rounds have
ended, and makes no other move after that. -/
theorem rounds_until_stopped (l : Link ρ σ) (p : Pipeline ρ) {x : Site σ} {before after : List (Incident σ)}
    {m m' : Keeper ρ × Site σ} (h : live? l before (ofPipeline p, x) = some m) (h' : live? l after m = some m') :
    m.1.loop.begun = m.1.loop.ended + (if m.1.stage?.isSome then 1 else 0) ∧
    (.asksStop ∈ before → m'.1.loop.begun = m.1.loop.begun) ∧
    (∀ waits faults rest, before = waits ++ .moves faults :: rest → (∀ faults, .moves faults ∉ waits) →
      (.asksStop ∈ waits → m.1.loop.begun = 0) ∧
      (.asksStop ∉ waits → 1 ≤ m.1.loop.begun ∧ (p.config.pollPeriod.isZero = true → m.1.loop.begun = 1))) ∧
    (∀ s, m.1.stage? = some s →
      (∀ faults, moveUnder? l faults m = none → IsHeldUp l faults m s) ∧
      ((∃ s', m'.1.stage? = some s' ∧ m'.1.loop.begun = m.1.loop.begun ∧ s.agenda.KeptIn s'.agenda ∧
          s'.rest + after.countP Incident.isMove ≤ s.rest) ∨
        m.1.loop.begun ≤ m'.1.loop.ended ∧
          (m'.1.loop.ended = m.1.loop.begun → ∃ r, m'.1.report? = some r ∧ s.agenda.KeptIn r.agenda))) ∧
    (.asksStop ∈ before → m.1.stage? = none → m.1.isDone = false →
      ∀ faults, ∃ k, moveUnder? l faults m = some (k, m.2) ∧ k.isDone = true) ∧
    (m.1.isDone = false → m'.1.isDone = true →
      ∃ as faults bs z z', after = as ++ .moves faults :: bs ∧ live? l as m = some z ∧
        moveUnder? l faults z = some z' ∧ live? l bs z' = some m' ∧ z.1.isDone = false ∧ z'.1.isDone = true ∧
        .asksStop ∈ before ++ as ∧ z.1.stage? = none ∧ z.1.loop.begun = z.1.loop.ended ∧ z'.2 = z.2) ∧
    (m.1.isDone = true → m'.1.isDone = true ∧ m'.1.stage? = none ∧ m'.1.loop.begun = m.1.loop.begun ∧
      ∀ faults, .moves faults ∉ after ∧ moveUnder? l faults m = none) := by
  have hstart : (ofPipeline p).Sound := sound_ofPipeline p
  have hunasked : (ofPipeline p).loop.stopAsked ≠ true := Bool.false_ne_true
  have hlives : Lives (ofPipeline p) before m.1 := lives_of_live? hstart (timely_ofPipeline p) h
  have hlives' : Lives m.1 after m'.1 := lives_of_live? hlives.sound hlives.timely h'
  have hasked : .asksStop ∈ before → m.1.loop.stopAsked = true := fun hmem => hlives.asked.mpr (.inr hmem)
  refine ⟨?_, fun hmem => hlives'.becomes.barred (hasked hmem), ?_, fun s hs => ⟨fun faults hnone => ?_, ?_⟩,
    fun hmem hs hd faults => ?_, fun hd hd' => ?_, fun hd => ?_⟩
  · have hr := hlives.sound.rounds
    simp only [← hlives.sound.stage] at hr
    exact hr
  · rintro waits faults rest rfl hwaits
    -- the first move begins a round or ends the keeper, and only a stop before it decides which
    obtain ⟨z, z', hz, hm, hrest⟩ := Run.exists_step_of_run h
    have hfirst := lives_of_live? hstart (timely_ofPipeline p) hz
    obtain ⟨-, hidle, hnone⟩ := live?_waits hz hwaits
    have hmove : Move l faults z.1 z.2 z'.1 z'.2 := move_of_moveUnder? hm
    have hmoved := lives_of_befall? hfirst.sound hfirst.timely hm
    have hlater := hmoved.append (lives_of_live? hmoved.sound hmoved.timely hrest)
    constructor
    · intro hmem
      exact (hlater.becomes.barred (hfirst.asked.mpr (.inr hmem))).trans hnone
    · intro hmem
      have ha : z.1.loop.stopAsked = false := by
        rw [← Bool.not_eq_true, hfirst.asked]
        exact fun hor => hor.elim hunasked hmem
      have hbegun : z'.1.loop.begun = z.1.loop.begun + 1 := hmove.begins hfirst.sound hidle ha
      have hone : 1 ≤ m.1.loop.begun := by
        have hgrows := (lives_of_live? hmoved.sound hmoved.timely hrest).becomes.begun
        omega
      refine ⟨hone, fun hzero => ?_⟩
      have hpolls : m.1.loop.polls = false := by
        rw [hlives.polls]
        simp [ofPipeline, Loop.initial, Settings.Config.polls, hzero]
      exact Nat.le_antisymm (hlives.timely.single hpolls).2 hone
  · exact isHeldUp_of_moveUnder?_eq_none hlives.sound hs hnone
  · exact hlives'.goesOn s hs
  · exact exists_move_of_asked hlives.sound (hasked hmem) hs hd
  · obtain ⟨as, faults, bs, z, z', hafter, hz, hdz, hm, hdz', hrest⟩ := exists_last_move h' hd hd'
    have hmove : Move l faults z.1 z.2 z'.1 z'.2 := move_of_moveUnder? hm
    have hbefore := hlives.append (lives_of_live? hlives.sound hlives.timely hz)
    obtain ⟨hrests, ha, hsite⟩ := hmove.ends hdz hdz'
    have hstop : .asksStop ∈ before ++ as := (hbefore.asked.mp ha).resolve_left hunasked
    have hcounts : z.1.loop.begun = z.1.loop.ended := by
      have hr := hbefore.sound.rounds
      simpa [← hbefore.sound.stage, hrests] using hr
    exact ⟨as, faults, bs, z, z', hafter, hz, hm, hrest, hdz, hdz', hstop, hrests, hcounts, hsite⟩
  · have hd' : m'.1.isDone = true := isDone_iff.mpr (hlives'.becomes.done (isDone_iff.mp hd))
    refine ⟨hd', (hlives'.sound.finished hd').stage, ?_, fun faults => ⟨?_, ?_⟩⟩
    · exact hlives'.becomes.barred (hlives.timely.done (isDone_iff.mp hd))
    · exact not_moves_of_isDone hlives.sound hlives.timely hd h' faults
    · exact (hlives.sound.finished hd).moveUnder?_eq_none

/-- A keeper with a clock that is asked to stop in its first round finishes that round, and then comes to its end. -/
theorem stopped_in_first_round :
    let p : Pipeline Unit := ⟨.initial, [], .empty, ()⟩
    let x : Site Cluster.Inventory := ⟨.start ⟨[]⟩, [], [], 0, .empty, ""⟩
    let before : List (Incident Cluster.Inventory) := [.moves AtomicWrite.noFaults, .asksStop]
    let after : List (Incident Cluster.Inventory) :=
      [.moves AtomicWrite.noFaults, .moves AtomicWrite.noFaults, .elsewhere (x.later 60000000000),
        .moves AtomicWrite.noFaults]
    p.config.polls = true ∧
      ∃ m m', live? .inventory before (ofPipeline p, x) = some m ∧ live? .inventory after m = some m' ∧
        m.1.isDone = false ∧ m'.1.isDone = true ∧ m'.1.loop.begun = m.1.loop.begun ∧
        m.1.loop.begun = m.1.loop.ended + 1 := by
  intro p x before after
  have hrun : (live? .inventory before (ofPipeline p, x)).map (fun m =>
      (m.1.isDone, m.1.stage?.isSome, (live? .inventory after m).map fun m' => m'.1.isDone)) =
        some (false, true, some true) := by
    decide +kernel
  obtain ⟨m, hm, hfacts⟩ := Option.map_eq_some_iff.mp hrun
  simp only [Prod.mk.injEq] at hfacts
  obtain ⟨hbusy, hstage, hend⟩ := hfacts
  obtain ⟨m', hm', hdone⟩ := Option.map_eq_some_iff.mp hend
  obtain ⟨hcounts, hbarred, -⟩ := rounds_until_stopped .inventory p hm hm'
  rw [hstage] at hcounts
  exact ⟨by decide, m, m', hm, hm', hbusy, hdone, hbarred (by simp [before]), hcounts⟩

end Keeper

end Stencil.Upkeep
