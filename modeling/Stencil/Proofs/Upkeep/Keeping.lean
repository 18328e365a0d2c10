import Mathlib.Tactic.Common
import Stencil.Upkeep.Keeper

set_option autoImplicit false
set_option relaxedAutoImplicit false

/-!
What a keeper does in one move. A move starts a round, visits a template, turns to the commands, attends to one of
them, concludes the round, or ends it all. Main statements: a keeper is in a round exactly while its loop is at
work, and then one more round has begun than ended; one that is done has ended all its rounds and does not move;
and only a visit to a template changes files.
-/

namespace Stencil.Machine.Host

@[simp] theorem deliver_tree (h : Host) (signal : Nat) (p : Process) : (h.deliver signal p).tree = h.tree := by
  rw [deliver]
  split
  · rfl
  · split
    · rfl
    · split <;> rfl

@[simp] theorem deliverAll_tree (h : Host) (signal : Nat) (ps : List Process) :
    (h.deliverAll signal ps).tree = h.tree := by
  induction ps generalizing h with
  | nil => rfl
  | cons p ps ih => exact (ih _).trans (h.deliver_tree signal p)

@[simp] theorem deliverTo_tree (h : Host) (signal pid : Nat) : (h.deliverTo signal pid).tree = h.tree :=
  h.deliverAll_tree signal _

@[simp] theorem deliverGroup_tree (h : Host) (signal group : Nat) :
    (h.deliverGroup signal group).tree = h.tree :=
  h.deliverAll_tree signal _

end Stencil.Machine.Host

namespace Stencil.Upkeep

open Stencil.Filesystem

variable {ρ σ : Type}

namespace Running

theorem view_start {c : Scheduled} {x y : Site σ} {r : Running} (h : start c x = .ok (r, y)) :
    y.view = x.view := by
  rw [start] at h
  split at h
  · cases h
  · cases h
    rfl

theorem view_affect (r : Running) (x : Site σ) (e : ExecutionEvent) : (r.affect x e).view = x.view := by
  cases e <;> simp [affect, Site.view, Machine.Host.reap]

theorem view_move? {r r' : Running} {x y : Site σ} (h : move? (r, x) = some (r', y)) : y.view = x.view := by
  rw [move?] at h
  obtain ⟨e, -, he⟩ := List.exists_of_findSome?_eq_some h
  obtain ⟨execution, -, hm⟩ := Option.map_eq_some_iff.mp he
  cases hm
  exact view_affect r x e

end Running

namespace Keeper

def inRound (k : Keeper ρ) (due : Nat) : Keeper ρ :=
  { k with
    loop := k.loop.beginRound
    pipeline := k.pipeline.flush
    stage? := some (.templates Round.start k.pipeline.bindings)
    due := due }

def concluded (k : Keeper ρ) (now : Nat) (r : Report) : Keeper ρ :=
  { k with
    loop := { k.loop with
      phase := if k.loop.polls then .resting else .lingering
      ended := k.loop.ended + 1 }
    stage? := none
    report? := some r
    due := if k.loop.ended = 0 then now + k.period else k.due }

def withBindings (k : Keeper ρ) (bs : List Binding) : Keeper ρ :=
  { k with pipeline := { k.pipeline with bindings := bs } }

/-- The moves of a keeper: those between rounds, those of the template phase, and those of the command phase. -/
inductive Move (l : Link ρ σ) (faults : AtomicWrite.Faults) (k : Keeper ρ) (x : Site σ) :
    Keeper ρ → Site σ → Prop
  | starts : k.stage? = none → k.loop.phase = .idle → k.loop.stopAsked = false →
      Move l faults k x (k.inRound k.due) x
  | ticks : k.stage? = none → k.loop.phase = .resting → k.loop.stopAsked = false → k.due ≤ x.host.now →
      Move l faults k x (k.inRound (k.nextTick x.host.now)) x
  | ceases : k.stage? = none → k.loop.phase ≠ .working → k.loop.phase ≠ .done → k.loop.stopAsked = true →
      Move l faults k x { k with loop := { k.loop with phase := .done } } x
  | visits {r : Round} {b : Binding} {left : List Binding} (y : Visit ρ σ) :
      k.stage? = some (.templates r (b :: left)) →
      y = Round.visit l (faults.drop r.templates.length) k.pipeline.config (k.pipeline.scene x) b →
      l.isWaiting y.scene.own = false →
      Move l faults k x
        { k with
          pipeline := { k.pipeline with memo := y.scene.memo, own := y.scene.own }
          stage? := some (.templates (r.record k.pipeline.config y.scene.site.view y.binding y.result) left) }
        (y.scene.site.later templateTime)
  | rehearses {r : Round} : k.stage? = some (.templates r []) → k.pipeline.config.dryRun = true →
      k.loop.phase = .working →
      Move l faults k x ((k.withBindings r.bindings).concluded x.host.now r.trialReport)
        ((x.print r.trialText).later templateTime)
  | turns {r : Round} : k.stage? = some (.templates r []) → k.pipeline.config.dryRun = false →
      Move l faults k x
        { k.withBindings r.bindings with stage? := some (.commands r.templates [] none r.scheduled) }
        (x.later templateTime)
  | concludes {found : List (String × Status)} {results : List (String × CommandResult)} :
      k.stage? = some (.commands found results none []) → k.loop.phase = .working →
      Move l faults k x (k.concluded x.host.now ⟨found, results, []⟩) x
  | refuses {found : List (String × Status)} {results : List (String × CommandResult)} {c : Scheduled}
      {left : List Scheduled} {f : CommandFault} :
      k.stage? = some (.commands found results none (c :: left)) → Running.start c x = .error f →
      Move l faults k x
        { k with stage? := some (.commands found (results ++ [(c.command, .error f)]) none left) } x
  | launches {found : List (String × Status)} {results : List (String × CommandResult)} {c : Scheduled}
      {left : List Scheduled} {m : Running} {y : Site σ} :
      k.stage? = some (.commands found results none (c :: left)) → Running.start c x = .ok (m, y) →
      Move l faults k x { k with stage? := some (.commands found results (some m) left) } y
  | notes {found : List (String × Status)} {results : List (String × CommandResult)} {m : Running}
      {left : List Scheduled} {result : CommandResult} :
      k.stage? = some (.commands found results (some m) left) → m.result? = some result →
      Move l faults k x
        { k with stage? := some (.commands found (results ++ [(m.scheduled.command, result)]) none left) } x
  | attends {found : List (String × Status)} {results : List (String × CommandResult)} {m m' : Running}
      {left : List Scheduled} {y : Site σ} :
      k.stage? = some (.commands found results (some m) left) → m.result? = none →
      Running.move? (m, x) = some (m', y) →
      Move l faults k x { k with stage? := some (.commands found results (some m') left) } y

section Moves

variable {l : Link ρ σ} {faults : AtomicWrite.Faults} {k k' : Keeper ρ} {x y : Site σ}

theorem conclude_eq_some_iff {now : Nat} {r : Report} :
    k.conclude now r = some k' ↔ k.loop.phase = .working ∧ k.concluded now r = k' := by
  cases hp : k.loop.phase <;> simp [conclude, follow?, Loop.step?, hp, concluded]

theorem move_of_loopMove? (hs : k.stage? = none) (h : k.loopMove? x.host.now = some k') :
    Move l faults k x k' x := by
  obtain ⟨p, ⟨polls, asked, phase, begun, ended⟩, stage?, report?, due⟩ := k
  cases phase <;> cases asked <;>
    simp only [loopMove?, follow?, Loop.step?, Option.map_none, Option.map_some, if_true, if_false,
      Bool.false_eq_true] at h
  case idle.false =>
    cases h
    exact .starts hs rfl rfl
  case resting.false =>
    split at h
    · next hdue =>
      cases h
      exact .ticks hs rfl rfl hdue
    · cases h
  case idle.true | resting.true | lingering.true =>
    cases h
    exact .ceases hs nofun nofun rfl
  all_goals
    split at h <;> cases h

theorem move_of_stageMove? {s : Stage} (hs : k.stage? = some s) (h : stageMove? l faults k x s = some (k', y)) :
    Move l faults k x k' y := by
  cases s with
  | templates r left =>
    cases left with
    | cons b left =>
      rw [stageMove?] at h
      split at h
      next _ hstep =>
      cases hstep
      split at h
      · cases h
      · next hw =>
        cases h
        exact .visits _ hs rfl (Bool.not_eq_true _ ▸ hw)
    | nil =>
      simp only [stageMove?] at h
      split at h
      · next hdry =>
        obtain ⟨m, hm, he⟩ := Option.map_eq_some_iff.mp h
        obtain ⟨hp, rfl⟩ := conclude_eq_some_iff.mp hm
        cases he
        exact .rehearses hs hdry hp
      · next hdry =>
        cases h
        exact .turns hs (Bool.not_eq_true _ ▸ hdry)
  | commands found results running? left =>
    cases running? with
    | none =>
      cases left with
      | nil =>
        obtain ⟨m, hm, he⟩ := Option.map_eq_some_iff.mp h
        obtain ⟨hp, rfl⟩ := conclude_eq_some_iff.mp hm
        cases he
        exact .concludes hs hp
      | cons c left =>
        simp only [stageMove?] at h
        split at h
        · next hf =>
          cases h
          exact .refuses hs hf
        · next hm =>
          cases h
          exact .launches hs hm
    | some m =>
      simp only [stageMove?] at h
      split at h
      · next hr =>
        cases h
        exact .notes hs hr
      · next hr =>
        obtain ⟨⟨m', z⟩, hm, he⟩ := Option.map_eq_some_iff.mp h
        cases he
        exact .attends hs hr hm

theorem move_of_moveUnder? (h : moveUnder? l faults (k, x) = some (k', y)) : Move l faults k x k' y := by
  rw [moveUnder?] at h
  split at h
  · next s hs => exact move_of_stageMove? hs h
  · next hs =>
    obtain ⟨m, hm, he⟩ := Option.map_eq_some_iff.mp h
    cases he
    exact move_of_loopMove? hs hm

theorem Move.config_eq (h : Move l faults k x k' y) : k'.pipeline.config = k.pipeline.config := by
  cases h <;> rfl

end Moves

/-- A keeper is in a round exactly while its loop is at work, and then one more round has begun than ended. -/
structure Sound (k : Keeper ρ) : Prop where
  stage : k.stage?.isSome = true ↔ k.loop.phase = .working
  rounds : k.loop.begun = k.loop.ended + if k.loop.phase = .working then 1 else 0

/-- A keeper that has ended all its rounds and is in none. -/
structure Finished (k : Keeper ρ) : Prop where
  isDone : k.isDone = true
  stage : k.stage? = none
  rounds : k.loop.begun = k.loop.ended

section Soundness

variable {l : Link ρ σ} {faults : AtomicWrite.Faults} {k k' : Keeper ρ} {x y : Site σ}

theorem isDone_iff : k.isDone = true ↔ k.loop.phase = .done := by
  simp [isDone, Loop.isDone]

theorem phase_ne_done (hd : k.isDone = false) : k.loop.phase ≠ .done := by
  intro hp
  cases hd.symm.trans (isDone_iff.mpr hp)

theorem sound_ofPipeline (p : Pipeline ρ) : (ofPipeline p).Sound :=
  ⟨by simp [ofPipeline, Loop.initial], by simp [ofPipeline, Loop.initial]⟩

theorem Sound.stop (h : k.Sound) (l : Link ρ σ) : (Keeper.stop l k).Sound := ⟨h.stage, h.rounds⟩

theorem Sound.phase_ne_working (h : k.Sound) (hs : k.stage? = none) : k.loop.phase ≠ .working := by
  intro hp
  rw [← h.stage, hs] at hp
  cases hp

theorem sound_inRound (h : k.Sound) (hs : k.stage? = none) (due : Nat) : (k.inRound due).Sound := by
  have hp := h.phase_ne_working hs
  refine ⟨by simp [inRound, Loop.beginRound], ?_⟩
  have hr := h.rounds
  rw [if_neg hp] at hr
  simp [inRound, Loop.beginRound, hr]

theorem sound_concluded (h : k.Sound) (hp : k.loop.phase = .working) (now : Nat) (r : Report) :
    (k.concluded now r).Sound := by
  have hr := h.rounds
  rw [if_pos hp] at hr
  constructor
  · cases hpolls : k.loop.polls <;> simp [concluded, hpolls]
  · cases hpolls : k.loop.polls <;> simp [concluded, hpolls, hr]

theorem Sound.within (h : k.Sound) (hs : k.stage?.isSome = true) {m : Keeper ρ} (hl : m.loop = k.loop)
    (hm : m.stage?.isSome = true) : m.Sound := by
  refine ⟨?_, hl ▸ h.rounds⟩
  rw [hl, ← h.stage, hs, hm]

theorem Sound.move (h : k.Sound) (hm : Move l faults k x k' y) : k'.Sound := by
  cases hm with
  | starts hs => exact sound_inRound h hs _
  | ticks hs => exact sound_inRound h hs _
  | ceases hs hp =>
    have hr := h.rounds
    rw [if_neg hp] at hr
    exact ⟨by simp [hs], by simp [hr]⟩
  | @rehearses r hs _ hp =>
    have hk : (k.withBindings r.bindings).Sound := ⟨h.stage, h.rounds⟩
    exact sound_concluded hk hp _ _
  | concludes hs hp => exact sound_concluded h hp _ _
  | visits _ hs | turns hs | refuses hs | launches hs | notes hs | attends hs =>
    exact h.within (by rw [hs]; rfl) rfl rfl

theorem Sound.finished (h : k.Sound) (hd : k.isDone = true) : k.Finished := by
  have hp := isDone_iff.mp hd
  refine ⟨hd, ?_, ?_⟩
  · rw [← Option.not_isSome_iff_eq_none, h.stage, hp]
    exact nofun
  · simpa [hp] using h.rounds

theorem Finished.not_move (h : k.Finished) : ¬Move l faults k x k' y := by
  have hp := isDone_iff.mp h.isDone
  intro hm
  cases hm with
  | starts _ hi => cases hp.symm.trans hi
  | ticks _ hr => cases hp.symm.trans hr
  | ceases _ _ hd => exact hd hp
  | visits _ hs | rehearses hs | turns hs | concludes hs | refuses hs | launches hs | notes hs | attends hs =>
    cases h.stage.symm.trans hs

theorem Finished.moveUnder?_eq_none (h : k.Finished) : moveUnder? l faults (k, x) = none := by
  cases hm : moveUnder? l faults (k, x) with
  | none => rfl
  | some m => exact absurd (move_of_moveUnder? hm) h.not_move

end Soundness

end Keeper

end Stencil.Upkeep
