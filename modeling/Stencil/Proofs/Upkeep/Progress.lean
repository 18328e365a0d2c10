import Stencil.Proofs.Upkeep.Keeping
import Stencil.Proofs.Upkeep.Round
import Stencil.Proofs.Upkeep.Verdict

set_option autoImplicit false
set_option relaxedAutoImplicit false

/-!
What a move of a keeper keeps and what it brings nearer. Main statements: a round has so many moves to go and no more,
nothing of what it has to do is lost before its report, and only the cluster or its command hold it up; no round begins
once a stop was asked for; and the end comes between rounds.
-/

namespace Stencil.Upkeep

open Stencil.Filesystem

variable {ρ σ : Type}

/-- What a round deals with: its templates, by name, and its commands once they are known. -/
structure Agenda where
  templates : List String
  commands? : Option (List String)

/-- Nothing that was on the agenda earlier is lost. -/
structure Agenda.KeptIn (earlier later : Agenda) : Prop where
  templates : later.templates = earlier.templates
  commands : ∀ cs, earlier.commands? = some cs → later.commands? = some cs

theorem Agenda.KeptIn.refl (a : Agenda) : a.KeptIn a := ⟨rfl, fun _ h => h⟩

theorem Agenda.KeptIn.trans {a b c : Agenda} (h : a.KeptIn b) (h' : b.KeptIn c) : a.KeptIn c :=
  ⟨h'.templates.trans h.templates, fun cs hcs => h'.commands cs (h.commands cs hcs)⟩

theorem Agenda.keptIn_of_unknown {a b : Agenda} (ht : b.templates = a.templates) (h : a.commands? = none) : a.KeptIn b := by
  refine ⟨ht, fun cs hcs => ?_⟩
  cases h.symm.trans hcs

def Stage.agenda : Stage → Agenda
  | .templates r left => ⟨r.templates.map Prod.fst ++ left.map Binding.name, none⟩
  | .commands found results running? left =>
    ⟨found.map Prod.fst, some (results.map Prod.fst ++ running?.toList.map (·.scheduled.command) ++
      left.map Scheduled.command)⟩

/-- As many moves as a command takes at most: it is started, its parts move, and its result is noted. -/
def Stage.commandMoves : Nat := (Execution.start true).rank + 2

/-- As many moves as a round takes at most, from where it stands. A template that is left may still call for a
command. -/
def Stage.rest : Stage → Nat
  | .templates r left => left.length * (commandMoves + 1) + r.scheduled.length * commandMoves + 2
  | .commands _ _ running? left => running?.elim 0 (·.execution.rank + 1) + left.length * commandMoves + 1

theorem Stage.commandMoves_eq : commandMoves = 10 := rfl

theorem Schedule.length_add_le (xs : List Scheduled) (x : Scheduled) : (add xs x).length ≤ xs.length + 1 := by
  rw [add]
  split <;> simp

theorem Round.length_record_le (c : Settings.Config) (v : View) (b : Binding)
    (result : Except BindingFault Settlement) (r : Round) :
    (r.record c v b result).scheduled.length ≤ r.scheduled.length + 1 := by
  rw [record]
  cases call? c v b.descriptor result with
  | none => exact Nat.le_succ _
  | some s => exact Schedule.length_add_le r.scheduled s

def Report.agenda (r : Report) : Agenda := ⟨r.templates.map Prod.fst, some (r.commands.map Prod.fst)⟩

namespace Running

theorem scheduled_start {c : Scheduled} {x y : Site σ} {r : Running} (h : start c x = .ok (r, y)) :
    r.scheduled = c ∧ r.execution.rank + 2 = Stage.commandMoves := by
  rw [start] at h
  split at h <;> cases h
  exact ⟨rfl, rfl⟩

theorem scheduled_move? {r r' : Running} {x y : Site σ} (h : move? (r, x) = some (r', y)) :
    r'.scheduled = r.scheduled ∧ r'.execution.rank < r.execution.rank := by
  rw [move?] at h
  obtain ⟨e, -, he⟩ := List.exists_of_findSome?_eq_some h
  obtain ⟨execution, hstep, hm⟩ := Option.map_eq_some_iff.mp he
  cases hm
  exact ⟨rfl, (Execution.move_of_step? hstep).rank_lt⟩

end Running

namespace Keeper

/-- What holds a round up: the cluster has no answer yet for the next template, or the command at work does nothing. -/
def IsHeldUp (l : Link ρ σ) (faults : AtomicWrite.Faults) (m : Keeper ρ × Site σ) : Stage → Prop
  | .templates r (b :: _) =>
    l.isWaiting (Round.visit l (faults.drop r.templates.length) m.1.pipeline.config (m.1.pipeline.scene m.2) b).scene.own
      = true
  | .commands _ _ (some r) _ => r.result? = none ∧ Running.move? (r, m.2) = none
  | _ => False

/-- A keeper that is not done has a clock or at most one round, and one that is done was asked to stop. -/
structure Timely (k : Keeper ρ) : Prop where
  idle : k.loop.phase = .idle → k.loop.begun = 0
  single : k.loop.polls = false → k.loop.phase ≠ .resting ∧ k.loop.begun ≤ 1
  done : k.loop.phase = .done → k.loop.stopAsked = true

/-- How a keeper may be later. Its counts grow, but no round begins once a stop was asked for; one that is done remains
so; and the report is the same until another round ends. -/
structure Becomes (k k' : Keeper ρ) : Prop where
  asked : k.loop.stopAsked = true → k'.loop.stopAsked = true
  begun : k.loop.begun ≤ k'.loop.begun
  ended : k.loop.ended ≤ k'.loop.ended
  barred : k.loop.stopAsked = true → k'.loop.begun = k.loop.begun
  done : k.loop.phase = .done → k'.loop.phase = .done
  report : k'.loop.ended = k.loop.ended → k'.report? = k.report?

/-- The round that a keeper is in goes on, with so many moves less to go, or it has ended, and then its report leaves
nothing out. -/
def GoesOn (moves : Nat) (k k' : Keeper ρ) : Prop :=
  ∀ s, k.stage? = some s →
    (∃ s', k'.stage? = some s' ∧ k'.loop.begun = k.loop.begun ∧ s.agenda.KeptIn s'.agenda ∧
      s'.rest + moves ≤ s.rest) ∨
      k.loop.begun ≤ k'.loop.ended ∧
        (k'.loop.ended = k.loop.begun → ∃ r, k'.report? = some r ∧ s.agenda.KeptIn r.agenda)

section Steps

variable {l : Link ρ σ} {faults : AtomicWrite.Faults} {k k' k'' : Keeper ρ} {x y : Site σ}

theorem becomes_of_loop (hl : k'.loop = k.loop) (hr : k'.report? = k.report?) : Becomes k k' := by
  constructor <;> simp [hl, hr]

theorem Becomes.trans (h : Becomes k k') (h' : Becomes k' k'') : Becomes k k'' where
  asked hs := h'.asked (h.asked hs)
  begun := Nat.le_trans h.begun h'.begun
  ended := Nat.le_trans h.ended h'.ended
  barred hs := (h'.barred (h.asked hs)).trans (h.barred hs)
  done hd := h'.done (h.done hd)
  report he := by
    have hfirst : k'.loop.ended = k.loop.ended := Nat.le_antisymm (he ▸ h'.ended) h.ended
    exact (h'.report (he.trans hfirst.symm)).trans (h.report hfirst)

theorem becomes_stop (l : Link ρ σ) (k : Keeper ρ) : Becomes k (stop l k) :=
  ⟨fun _ => rfl, Nat.le_refl _, Nat.le_refl _, fun _ => rfl, fun h => h, fun _ => rfl⟩

theorem Move.becomes (h : Move l faults k x k' y) : Becomes k k' := by
  cases h with
  | starts _ hp ha | ticks _ hp ha =>
    refine ⟨fun h => h, Nat.le_succ _, Nat.le_refl _, fun hs => ?_, fun hd => ?_, fun _ => rfl⟩
    · cases ha.symm.trans hs
    · cases hp.symm.trans hd
  | rehearses _ _ hp | concludes _ hp =>
    refine ⟨fun h => h, Nat.le_refl _, Nat.le_succ _, fun _ => rfl, fun hd => ?_, fun he => ?_⟩
    · cases hp.symm.trans hd
    · exact absurd he (Nat.succ_ne_self _)
  | ceases => exact ⟨fun h => h, Nat.le_refl _, Nat.le_refl _, fun _ => rfl, fun _ => rfl, fun _ => rfl⟩
  | visits | turns | refuses | launches | notes | attends => exact becomes_of_loop rfl rfl

theorem Move.polls_eq (h : Move l faults k x k' y) : k'.loop.polls = k.loop.polls := by
  cases h <;> rfl

theorem Move.stopAsked_eq (h : Move l faults k x k' y) : k'.loop.stopAsked = k.loop.stopAsked := by
  cases h <;> rfl

theorem timely_ofPipeline (p : Pipeline ρ) : (ofPipeline p).Timely :=
  ⟨fun _ => rfl, fun _ => ⟨nofun, Nat.zero_le _⟩, nofun⟩

theorem Timely.stop (h : k.Timely) (l : Link ρ σ) : (Keeper.stop l k).Timely := ⟨h.idle, h.single, fun _ => rfl⟩

theorem timely_concluded (h : k.Timely) (now : Nat) (r : Report) : (k.concluded now r).Timely := by
  cases hp : k.loop.polls with
  | true => exact ⟨by simp [concluded, hp], by simp [concluded, hp], by simp [concluded, hp]⟩
  | false =>
    have hone : k.loop.begun ≤ 1 := (h.single hp).2
    exact ⟨by simp [concluded, hp], by simp [concluded, hp, hone], by simp [concluded, hp]⟩

theorem Timely.move (h : k.Timely) (hm : Move l faults k x k' y) : k'.Timely := by
  cases hm with
  | starts _ hidle =>
    have hfirst : (k.inRound k.due).loop.begun = 1 := congrArg Nat.succ (h.idle hidle)
    exact ⟨nofun, fun _ => ⟨nofun, Nat.le_of_eq hfirst⟩, nofun⟩
  | ticks _ hrest => exact ⟨nofun, fun hp => absurd hrest (h.single hp).1, nofun⟩
  | ceases _ _ _ ha => exact ⟨nofun, fun hp => ⟨nofun, (h.single hp).2⟩, fun _ => ha⟩
  | @rehearses r =>
    have hbound : (k.withBindings r.bindings).Timely := ⟨h.idle, h.single, h.done⟩
    exact timely_concluded hbound _ _
  | concludes => exact timely_concluded h _ _
  | visits | turns | refuses | launches | notes | attends => exact ⟨h.idle, h.single, h.done⟩

theorem goesOn_of_rest {n : Nat} (hs : k.stage? = none) : GoesOn n k k' := by
  intro s hs'
  cases hs.symm.trans hs'

theorem goesOn_of_stage {n : Nat} {s s' : Stage} (hs : k.stage? = some s) (hs' : k'.stage? = some s')
    (hb : k'.loop.begun = k.loop.begun) (ha : s.agenda.KeptIn s'.agenda) (hr : s'.rest + n ≤ s.rest) :
    GoesOn n k k' := by
  intro t ht
  cases hs.symm.trans ht
  exact .inl ⟨s', hs', hb, ha, hr⟩

theorem goesOn_of_report {n : Nat} {s : Stage} {r : Report} (hs : k.stage? = some s) (hr : k'.report? = some r)
    (he : k.loop.begun ≤ k'.loop.ended) (ha : s.agenda.KeptIn r.agenda) : GoesOn n k k' := by
  intro t ht
  cases hs.symm.trans ht
  exact .inr ⟨he, fun _ => ⟨r, hr, ha⟩⟩

theorem goesOn_of_loop (hs : k'.stage? = k.stage?) (hb : k'.loop.begun = k.loop.begun) : GoesOn 0 k k' := by
  cases hk : k.stage? with
  | none => exact goesOn_of_rest hk
  | some s => exact goesOn_of_stage hk (hs.trans hk) hb (.refl _) (Nat.le_refl _)

theorem GoesOn.trans {n n' : Nat} (h : GoesOn n k k') (h' : GoesOn n' k' k'') (hb : Becomes k' k'') :
    GoesOn (n + n') k k'' := by
  intro s hs
  obtain ⟨s', hs', hsame, ha, hrest⟩ | ⟨hover, hr⟩ := h s hs
  · obtain ⟨s'', hs'', hsame', ha', hrest'⟩ | ⟨hover, hr⟩ := h' s' hs'
    · exact .inl ⟨s'', hs'', hsame'.trans hsame, ha.trans ha', by omega⟩
    · refine .inr ⟨hsame ▸ hover, fun he => ?_⟩
      obtain ⟨r, hreport, ha'⟩ := hr (he.trans hsame.symm)
      exact ⟨r, hreport, ha.trans ha'⟩
  · -- the round was over before, so no round has ended since if the count is still the same
    refine .inr ⟨Nat.le_trans hover hb.ended, fun he => ?_⟩
    have hlast : k'.loop.ended = k.loop.begun := Nat.le_antisymm (he ▸ hb.ended) hover
    rw [hb.report (he.trans hlast.symm)]
    exact hr hlast

theorem Move.goesOn (h : Move l faults k x k' y) (hk : k.Sound) : GoesOn 1 k k' := by
  have hround : k.loop.phase = .working → k.loop.begun ≤ k.loop.ended + 1 := by
    intro hp
    have hr := hk.rounds
    rw [if_pos hp] at hr
    exact Nat.le_of_eq hr
  cases h with
  | starts hs | ticks hs | ceases hs => exact goesOn_of_rest hs
  | @visits r b left y hs hy =>
    have hname : y.binding.name = b.name := by
      rw [Binding.name, hy, (Round.visit_eq l _ _ _ b).1, ← Binding.name]
    have hcalls := Round.length_record_le k.pipeline.config y.scene.site.view y.binding y.result r
    refine goesOn_of_stage hs rfl rfl (Agenda.keptIn_of_unknown ?_ rfl) ?_
    · simp [Stage.agenda, Round.record, hname]
    · simp only [Stage.rest, List.length_cons]
      rw [Stage.commandMoves_eq]
      omega
  | @rehearses r hs _ hp =>
    refine goesOn_of_report hs rfl (hround hp) (Agenda.keptIn_of_unknown ?_ rfl)
    simp [Stage.agenda, Report.agenda, Round.trialReport]
  | turns hs =>
    refine goesOn_of_stage hs rfl rfl (Agenda.keptIn_of_unknown ?_ rfl) ?_
    · simp [Stage.agenda]
    · simp [Stage.rest]
  | concludes hs hp =>
    refine goesOn_of_report hs rfl (hround hp) ⟨rfl, fun cs hcs => hcs ▸ ?_⟩
    simp [Stage.agenda, Report.agenda]
  | refuses hs | notes hs =>
    refine goesOn_of_stage hs rfl rfl ⟨rfl, fun cs hcs => hcs ▸ ?_⟩ ?_
    · simp [Stage.agenda]
    · simp only [Stage.rest, List.length_cons, Option.elim_none, Option.elim_some]
      rw [Stage.commandMoves_eq]
      omega
  | launches hs hm =>
    obtain ⟨hcommand, hrank⟩ := Running.scheduled_start hm
    refine goesOn_of_stage hs rfl rfl ⟨rfl, fun cs hcs => hcs ▸ ?_⟩ ?_
    · simp [Stage.agenda, hcommand]
    · simp only [Stage.rest, ← hrank, List.length_cons, Option.elim_none, Option.elim_some]
      rw [Nat.succ_mul]
      omega
  | attends hs _ hm =>
    obtain ⟨hcommand, hrank⟩ := Running.scheduled_move? hm
    refine goesOn_of_stage hs rfl rfl ⟨rfl, fun cs hcs => hcs ▸ ?_⟩ ?_
    · simp [Stage.agenda, hcommand]
    · simp only [Stage.rest, Option.elim_some]
      omega

theorem Move.begins (h : Move l faults k x k' y) (hk : k.Sound) (hp : k.loop.phase = .idle)
    (ha : k.loop.stopAsked = false) : k'.loop.begun = k.loop.begun + 1 := by
  have hs : k.stage?.isSome ≠ true := by
    rw [Ne, hk.stage, hp]
    exact nofun
  cases h with
  | starts | ticks => rfl
  | ceases _ _ _ ha' => cases ha.symm.trans ha'
  | visits _ h | rehearses h | turns h | concludes h | refuses h | launches h | notes h | attends h =>
    exact absurd (by rw [h]; rfl) hs

/-- The move with which a keeper comes to its end takes place between rounds, after a stop was asked for, and does
nothing else. -/
theorem Move.ends (h : Move l faults k x k' y) (hd : k.isDone = false) (hd' : k'.isDone = true) :
    k.stage? = none ∧ k.loop.stopAsked = true ∧ y = x := by
  have hp' := isDone_iff.mp hd'
  cases h with
  | ceases hs _ _ ha => exact ⟨hs, ha, rfl⟩
  | starts | ticks => cases hp'
  | rehearses | concludes =>
    simp only [concluded] at hp'
    split at hp' <;> cases hp'
  | visits | turns | refuses | launches | notes | attends =>
    exact absurd hp' (phase_ne_done hd)

theorem exists_move_of_asked (hk : k.Sound) (ha : k.loop.stopAsked = true) (hs : k.stage? = none)
    (hd : k.isDone = false) : ∃ k', moveUnder? l faults (k, x) = some (k', x) ∧ k'.isDone = true := by
  rw [moveUnder?, hs]
  cases hphase : k.loop.phase with
  | working => exact absurd hphase (hk.phase_ne_working hs)
  | done => exact absurd hphase (phase_ne_done hd)
  | idle | resting | lingering =>
    simp [loopMove?, follow?, Loop.step?, enter, isDone, Loop.isDone, hphase, ha]

/-- A round makes its next move whatever was asked for, unless it waits for the cluster or for its command. -/
theorem isHeldUp_of_moveUnder?_eq_none {s : Stage} (hk : k.Sound) (hs : k.stage? = some s)
    (h : moveUnder? l faults (k, x) = none) : IsHeldUp l faults (k, x) s := by
  have hp : k.loop.phase = .working := hk.stage.mp (by rw [hs]; rfl)
  replace h : stageMove? l faults k x s = none := by simpa only [moveUnder?, hs] using h
  have hconcludes : ∀ (c : Keeper ρ) (now : Nat) (r : Report), c.loop = k.loop → c.conclude now r ≠ none := by
    intro c now r hc hnone
    have hsome : c.conclude now r = some (c.concluded now r) := conclude_eq_some_iff.mpr ⟨hc ▸ hp, rfl⟩
    cases hnone.symm.trans hsome
  cases s with
  | templates r left =>
    cases left with
    | nil =>
      simp only [stageMove?] at h
      split at h
      · exact absurd (Option.map_eq_none_iff.mp h) (hconcludes _ _ _ rfl)
      · cases h
    | cons b left =>
      rw [stageMove?] at h
      split at h
      next _ hstep =>
      cases hstep
      split at h
      · assumption
      · cases h
  | commands found results running? left =>
    cases running? with
    | some r =>
      simp only [stageMove?] at h
      split at h
      · cases h
      · next hr => exact ⟨hr, Option.map_eq_none_iff.mp h⟩
    | none =>
      cases left with
      | nil => exact absurd (Option.map_eq_none_iff.mp h) (hconcludes _ _ _ rfl)
      | cons c left =>
        simp only [stageMove?] at h
        split at h <;> cases h

end Steps

end Keeper

end Stencil.Upkeep
