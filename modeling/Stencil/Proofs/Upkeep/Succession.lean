import Stencil.Proofs.Upkeep.Happening

set_option autoImplicit false
set_option relaxedAutoImplicit false

/-!
How keepers succeed one another. Main statement, for every course of happenings: of the keepers that were launched
only the current one may not be done, and those before it have ended all their rounds; when the supervisor is
through, all are done. Requests are heard in order, each reload that is heard has one keeper built, and after a
stop, or when nobody asks any more, nothing is heard. A reload for which no keeper could be built leaves no trace.
-/

namespace Stencil.Upkeep

open Stencil.Filesystem

variable {ρ σ : Type}

namespace Supervision

variable {κ : Type}

def launched (s : Supervision κ) : List κ := s.retired ++ [s.current]

def awaited (s : Supervision κ) : Nat :=
  match s.duty with
  | .building => 1
  | _ => 0

/-- The supervisor is about to end, or has ended. -/
def isWinding (s : Supervision κ) : Bool :=
  match s.duty with
  | .ending | .ended => true
  | _ => false

end Supervision

namespace Happening

def asked : Happening ρ σ → List Control
  | .asks c => [c]
  | _ => []

def heard : Happening ρ σ → List Control
  | .hears (some c) => [c]
  | _ => []

def outcomes : Happening ρ σ → List (Option (Pipeline ρ))
  | .builds p? => [p?]
  | _ => []

end Happening

namespace Situation

def start (first : Pipeline ρ) (x : Site σ) : Situation ρ σ := (Supervision.start (Keeper.ofPipeline first), x)

def asked (es : List (Happening ρ σ)) : List Control := es.flatMap Happening.asked

def heard (es : List (Happening ρ σ)) : List Control := es.flatMap Happening.heard

def outcomes (es : List (Happening ρ σ)) : List (Option (Pipeline ρ)) := es.flatMap Happening.outcomes

section OneAtATime

/-- A keeper that is to take over has not begun, and the supervisor has ended only when the current one has. -/
def DutyMet (current : Keeper ρ) : Duty (Keeper ρ) → Prop
  | .handingOver next => ∃ p, next = Keeper.ofPipeline p
  | .ended => current.Finished
  | _ => True

/-- Keepers that retired are through with their rounds, the current one is sound, and the supervisor is true to
what it does. -/
structure Orderly (s : Supervision (Keeper ρ)) : Prop where
  retired : ∀ k ∈ s.retired, k.Finished
  current : s.current.Sound
  duty : DutyMet s.current s.duty

variable {l : Link ρ σ} {others : Site σ → Site σ → Prop} {m m' : Situation ρ σ} {e : Happening ρ σ}
  {es : List (Happening ρ σ)}

theorem orderly_start (first : Pipeline ρ) (x : Site σ) : Orderly (start first x).1 :=
  ⟨fun _ hk => absurd hk List.not_mem_nil, Keeper.sound_ofPipeline first, trivial⟩

theorem Orderly.not_stirs (h : Orderly m.1) {i : Nat} {faults : AtomicWrite.Faults}
    (hs : Happens l (.stirs i faults) m m') : False := by
  cases hs with
  | stirs hk hm =>
    rw [(h.retired _ (List.mem_of_getElem? hk)).moveUnder?_eq_none] at hm
    cases hm

theorem Orderly.happens (h : Orderly m.1) (he : Happens l e m m') : Orderly m'.1 := by
  cases he with
  | asks | closes | elsewhere => exact ⟨h.retired, h.current, h.duty⟩
  | hearsReload | cannotBuild => exact ⟨h.retired, h.current, trivial⟩
  | hearsStop | hearsClosure => exact ⟨h.retired, h.current.stop l, trivial⟩
  | builds p => exact ⟨h.retired, h.current.stop l, p, rfl⟩
  | handsOver x hd hdone =>
    have hnext := h.duty
    rw [hd] at hnext
    obtain ⟨p, rfl⟩ := hnext
    refine ⟨fun k hk => ?_, Keeper.sound_ofPipeline p, trivial⟩
    rcases List.mem_append.mp hk with hk | hk
    · exact h.retired k hk
    · obtain rfl := List.mem_singleton.mp hk
      exact h.current.finished hdone
  | ends x hd hdone => exact ⟨h.retired, h.current, h.current.finished hdone⟩
  | @works s _ k _ _ hm =>
    have hduty := h.duty
    refine ⟨h.retired, h.current.move (Keeper.move_of_moveUnder? hm), ?_⟩
    cases hd : s.duty with
    | handingOver next =>
      rw [hd] at hduty
      exact hduty
    | ended =>
      rw [hd] at hduty
      rw [Keeper.Finished.moveUnder?_eq_none hduty] at hm
      cases hm
    | listening | building | ending => trivial
  | stirs hk hm => exact (h.not_stirs (.stirs hk hm)).elim

theorem Course.orderly (h : Course l others m es m') (hm : Orderly m.1) : Orderly m'.1 :=
  Course.keeps (P := fun m => Orderly m.1) h (fun _ he _ ho => Orderly.happens ho he) hm

theorem Orderly.next_not_begun (h : Orderly m.1) {next : Keeper ρ} (hd : m.1.duty = .handingOver next) :
    next.loop.begun = 0 ∧ next.stage? = none := by
  have hnext := h.duty
  rw [hd] at hnext
  obtain ⟨p, rfl⟩ := hnext
  exact ⟨rfl, rfl⟩

theorem Orderly.finished_of_ended (h : Orderly m.1) (hd : m.1.duty = .ended) : ∀ k ∈ m.1.launched, k.Finished := by
  have hcurrent := h.duty
  rw [hd] at hcurrent
  intro k hk
  rcases List.mem_append.mp hk with hk | hk
  · exact h.retired k hk
  · obtain rfl := List.mem_singleton.mp hk
    exact hcurrent

theorem Orderly.countP_launched (h : Orderly m.1) : m.1.launched.countP (fun k => !k.isDone) ≤ 1 := by
  have hretired : m.1.retired.countP (fun k => !k.isDone) = 0 := by
    rw [List.countP_eq_zero]
    intro k hk
    simp [(h.retired k hk).isDone]
  rw [Supervision.launched, List.countP_append, hretired, Nat.zero_add]
  exact List.countP_le_length

end OneAtATime

section Requests

/-- How a supervisor comes from one state to another while it is asked for some things and hears some, and building
keepers comes to some outcomes. -/
structure Ledger (s : Supervision (Keeper ρ)) (as hs : List Control) (os : List (Option (Pipeline ρ)))
    (s' : Supervision (Keeper ρ)) : Prop where
  inbox : s.inbox ++ as = hs ++ s'.inbox
  calls : s'.calls = s.calls + hs.count .reload
  called : s.awaited + hs.count .reload = os.length + s'.awaited
  built : s'.built.map (·.pipeline.config) =
    s.built.map (·.pipeline.config) ++ (os.filterMap id).map Pipeline.config
  winding : s.isWinding = true → hs = [] ∧ os = [] ∧ s'.isWinding = true

variable {l : Link ρ σ} {others : Site σ → Site σ → Prop} {m m' : Situation ρ σ} {e : Happening ρ σ}
  {es : List (Happening ρ σ)}

theorem Ledger.refl (s : Supervision (Keeper ρ)) : Ledger s [] [] [] s :=
  ⟨by simp, by simp, by simp, by simp, fun h => ⟨rfl, rfl, h⟩⟩

theorem Ledger.trans {s s' s'' : Supervision (Keeper ρ)} {as as' hs hs' : List Control}
    {os os' : List (Option (Pipeline ρ))} (h : Ledger s as hs os s') (h' : Ledger s' as' hs' os' s'') :
    Ledger s (as ++ as') (hs ++ hs') (os ++ os') s'' where
  inbox := by rw [← List.append_assoc, h.inbox, List.append_assoc, h'.inbox, List.append_assoc]
  calls := by rw [h'.calls, h.calls, List.count_append, Nat.add_assoc]
  called := by
    have hfirst := h.called
    have hsecond := h'.called
    rw [List.count_append, List.length_append]
    omega
  built := by rw [h'.built, h.built, List.filterMap_append, List.map_append, List.append_assoc]
  winding hw := by
    obtain ⟨rfl, rfl, hw⟩ := h.winding hw
    exact h'.winding hw

/-- A state in which nothing was asked, heard or built differs only in its keepers, and these keep up the same. -/
theorem ledger_of_quiet {s s' : Supervision (Keeper ρ)} (hi : s'.inbox = s.inbox) (hc : s'.calls = s.calls)
    (ha : s'.awaited = s.awaited) (hw : s'.isWinding = s.isWinding)
    (hb : s'.built.map (·.pipeline.config) = s.built.map (·.pipeline.config)) : Ledger s [] [] [] s' :=
  ⟨by simp [hi], by simp [hc], by simp [ha], by simp [hb], fun h => ⟨rfl, rfl, hw ▸ h⟩⟩

theorem Happens.ledger (h : Happens l e m m') (hm : Orderly m.1) :
    Ledger m.1 e.asked e.heard e.outcomes m'.1 := by
  cases h with
  | asks c =>
    exact ⟨rfl, rfl, (Nat.zero_add _).symm, (List.append_nil _).symm, fun h => ⟨rfl, rfl, h⟩⟩
  | closes | elsewhere => exact ledger_of_quiet rfl rfl rfl rfl rfl
  | hearsReload _ hd hi | hearsStop _ hd hi | hearsClosure _ hd hi =>
    constructor <;>
      simp [Happening.asked, Happening.heard, Happening.outcomes, Supervision.awaited, Supervision.isWinding,
        Supervision.built, Supervision.wind, Keeper.handling, Keeper.stop, hd, hi]
  | builds _ _ hd | cannotBuild _ hd =>
    constructor <;>
      simp [Happening.asked, Happening.heard, Happening.outcomes, Supervision.awaited, Supervision.isWinding,
        Supervision.built, Keeper.stop, Keeper.ofPipeline, hd]
  | handsOver _ hd | ends _ hd =>
    refine ledger_of_quiet rfl rfl ?_ ?_ ?_ <;>
      simp [Supervision.awaited, Supervision.isWinding, Supervision.built, hd]
  | works hw =>
    refine ledger_of_quiet rfl rfl rfl rfl ?_
    simp [Supervision.built, (Keeper.move_of_moveUnder? hw).config_eq]
  | stirs hk hw => exact (hm.not_stirs (.stirs hk hw)).elim

theorem Course.ledger (h : Course l others m es m') (hm : Orderly m.1) :
    Ledger m.1 (asked es) (heard es) (outcomes es) m'.1 := by
  induction h with
  | nil _ => exact .refl _
  | cons he _ _ ih =>
    have hfirst := (happens_of_happen? he).ledger hm
    exact hfirst.trans (ih (hm.happens (happens_of_happen? he)))

/-- After a stop was heard, or that nobody asks any more, nothing is heard and no keeper is built. -/
theorem Course.deaf {as bs : List (Happening ρ σ)} {c? : Option Control}
    (h : Course l others m (as ++ .hears c? :: bs) m') (hm : Orderly m.1) (hc : c? ≠ some .reload) :
    heard bs = [] ∧ outcomes bs = [] := by
  obtain ⟨n, has, hbs⟩ := h.exists_between
  cases hbs with
  | cons he _ hbs =>
    have hn := has.orderly hm
    have hwinding : ∀ {n'}, Happens l (.hears c?) n n' → n'.1.isWinding = true := by
      intro n' he
      cases he with
      | hearsReload => exact absurd rfl hc
      | hearsStop => rfl
      | hearsClosure => rfl
    have hledger := hbs.ledger (hn.happens (happens_of_happen? he))
    obtain ⟨hheard, houtcomes, -⟩ := hledger.winding (hwinding (happens_of_happen? he))
    exact ⟨hheard, houtcomes⟩

end Requests

section Spared

/-- The happenings that are left without a reload that is heard after `n` other requests: it is not heard, and no
keeper is built for it. -/
def spare : Nat → List (Happening ρ σ) → List (Happening ρ σ)
  | _, [] => []
  | 0, .hears (some _) :: es => es.eraseP fun e => !e.outcomes.isEmpty
  | n + 1, .hears (some c) :: es => .hears (some c) :: spare n es
  | n, e :: es => e :: spare n es

/-- What came of building a keeper for a request that is heard after `n` others, if that has come to something. -/
def outcomeOf? : Nat → List (Happening ρ σ) → Option (Option (Pipeline ρ))
  | _, [] => none
  | 0, .hears (some _) :: es => (outcomes es).head?
  | n + 1, .hears (some _) :: es => outcomeOf? n es
  | n, _ :: es => outcomeOf? n es

/-- Two situations in which the same keepers are at work at the same site. -/
structure Alike (m n : Situation ρ σ) : Prop where
  site : m.2 = n.2
  retired : m.1.retired = n.1.retired
  current : m.1.current = n.1.current

variable {l : Link ρ σ} {others : Site σ → Site σ → Prop} {m' : Situation ρ σ} {e : Happening ρ σ}
  {es : List (Happening ρ σ)} {s : Supervision (Keeper ρ)} {x : Site σ}

theorem Happens.with_calls {m : Situation ρ σ} (h : Happens l e m m') (n : Nat) :
    ∃ n', Happens l e ({ m.1 with calls := n }, m.2) ({ m'.1 with calls := n' }, m'.2) := by
  cases h with
  | asks c x hc => exact ⟨n, .asks c x hc⟩
  | closes s x => exact ⟨n, .closes _ x⟩
  | hearsReload x hd hi => exact ⟨n + 1, .hearsReload x hd hi⟩
  | hearsStop x hd hi => exact ⟨n, .hearsStop x hd hi⟩
  | hearsClosure x hd hi hc => exact ⟨n, .hearsClosure x hd hi hc⟩
  | builds p x hd => exact ⟨n, .builds p x hd⟩
  | cannotBuild x hd => exact ⟨n, .cannotBuild x hd⟩
  | handsOver x hd hdone => exact ⟨n, .handsOver x hd hdone⟩
  | ends x hd hdone => exact ⟨n, .ends x hd hdone⟩
  | works hm => exact ⟨n, .works hm⟩
  | stirs hk hm => exact ⟨n, .stirs hk hm⟩
  | elsewhere s x y => exact ⟨n, .elsewhere _ x y⟩

theorem Course.with_calls {m : Situation ρ σ} (h : Course l others m es m') (n : Nat) :
    ∃ n', Course l others ({ m.1 with calls := n }, m.2) es ({ m'.1 with calls := n' }, m'.2) := by
  induction h generalizing n with
  | nil m => exact ⟨n, .nil _⟩
  | cons he ho _ ih =>
    obtain ⟨k, hk⟩ := (happens_of_happen? he).with_calls n
    obtain ⟨n', hn⟩ := ih k
    exact ⟨n', .cons hk.happen?_eq ho hn⟩

/-- While a keeper is being built, things happen as they would if the supervisor listened, until the keeper is there
or could not be built. -/
theorem Happens.listening (h : Happens l e ({ s with duty := .building }, x) m') (hd : s.duty = .listening) :
    (e = .builds none ∧ m' = (s, x)) ∨ (∃ p, e = .builds (some p)) ∨
      (e.outcomes = [] ∧ ∃ s' y, s'.duty = .listening ∧ m' = ({ s' with duty := .building }, y) ∧
        Happens l e (s, x) (s', y)) := by
  cases h with
  | asks c x hc => exact .inr (.inr ⟨rfl, s.ask c, x, hd, rfl, .asks c x hc⟩)
  | closes => exact .inr (.inr ⟨rfl, s.close, x, hd, rfl, .closes s x⟩)
  | hearsReload x hb | hearsStop x hb | hearsClosure x hb | handsOver x hb | ends x hb => cases hb
  | builds p => exact .inr (.inl ⟨p, rfl⟩)
  | cannotBuild x _ => exact .inl ⟨rfl, by rw [← hd]⟩
  | @works _ _ k _ y hm => exact .inr (.inr ⟨rfl, { s with current := k }, y, hd, rfl, .works hm⟩)
  | @stirs _ i _ _ k _ y hk hm =>
    exact .inr (.inr ⟨rfl, { s with retired := s.retired.set i k }, y, hd, rfl, .stirs hk hm⟩)
  | elsewhere _ _ y => exact .inr (.inr ⟨rfl, s, y, hd, rfl, .elsewhere s x y⟩)

/-- A course in which a keeper is being built, but will not be, goes on as if the supervisor listened. -/
theorem Course.listening (h : Course l others ({ s with duty := .building }, x) es m') (hd : s.duty = .listening)
    (hnone : ∀ p, (outcomes es).head? ≠ some (some p)) :
    ∃ n, Course l others (s, x) (es.eraseP fun e => !e.outcomes.isEmpty) n ∧ Alike m' n := by
  induction es generalizing s x with
  | nil =>
    cases h
    exact ⟨(s, x), .nil _, rfl, rfl, rfl⟩
  | cons e es ih =>
    cases h with
    | cons he ho h =>
      rcases (happens_of_happen? he).listening hd with ⟨rfl, rfl⟩ | ⟨p, rfl⟩ | ⟨hq, s', y, hd', rfl, hs⟩
      · exact ⟨m', h, rfl, rfl, rfl⟩
      · exact absurd rfl (hnone p)
      · rw [outcomes, List.flatMap_cons, hq] at hnone
        obtain ⟨n, hn, halike⟩ := ih h hd' hnone
        rw [List.eraseP_cons_of_neg (by simp [hq])]
        exact ⟨n, .cons hs.happen?_eq ho hn, halike⟩

/-- While a reload waits to be heard, things happen as they would without it, until it is heard itself. -/
theorem Happens.waiting {q r : List Control}
    (h : Happens l e ({ s with inbox := q ++ .reload :: r }, x) m') :
    (q = [] ∧ e = .hears (some .reload) ∧ s.duty = .listening ∧
        m' = ({ s with inbox := r, calls := s.calls + 1, duty := .building }, x)) ∨
      ∃ (s' : Supervision (Keeper ρ)) (q' r' : List Control) (y : Site σ),
        m' = ({ s' with inbox := q' ++ .reload :: r' }, y) ∧ q = e.heard ++ q' ∧
        Happens l e ({ s with inbox := q ++ r }, x) ({ s' with inbox := q' ++ r' }, y) := by
  cases h with
  | asks c x hc =>
    refine .inr ⟨s, q, r ++ [c], x, ?_, rfl, ?_⟩
    · simp [Supervision.ask]
    · have hasks : Happens l (.asks c) ({ s with inbox := q ++ r }, x) _ := .asks c x hc
      simpa [Supervision.ask] using hasks
  | closes => exact .inr ⟨s.close, q, r, x, rfl, rfl, .closes _ x⟩
  | @hearsReload _ rest x hd hi =>
    cases q with
    | nil =>
      cases hi
      exact .inl ⟨rfl, rfl, hd, rfl⟩
    | cons c q =>
      obtain ⟨rfl, rfl⟩ := List.cons.inj hi
      exact .inr ⟨{ s with calls := s.calls + 1, duty := .building }, q, r, x, rfl, rfl, .hearsReload x hd rfl⟩
  | @hearsStop _ rest x hd hi =>
    cases q with
    | nil => cases hi
    | cons c q =>
      obtain ⟨rfl, rfl⟩ := List.cons.inj hi
      have hstops : Happens l _ ({ s with inbox := .stop :: (q ++ r) }, x) _ := .hearsStop x hd rfl
      exact .inr ⟨s.wind (Keeper.handling l), q, r, x, rfl, rfl, hstops⟩
  | hearsClosure x hd hi => exact absurd hi (by simp)
  | builds p x hd =>
    exact .inr ⟨{ s with current := Keeper.stop l s.current, duty := .handingOver (Keeper.ofPipeline p) }, q, r, x,
      rfl, rfl, .builds p x hd⟩
  | cannotBuild x hd => exact .inr ⟨{ s with duty := .listening }, q, r, x, rfl, rfl, .cannotBuild x hd⟩
  | @handsOver _ next x hd hdone =>
    exact .inr ⟨{ s with retired := s.retired ++ [s.current], current := next, duty := .listening }, q, r, x,
      rfl, rfl, .handsOver x hd hdone⟩
  | ends x hd hdone => exact .inr ⟨{ s with duty := .ended }, q, r, x, rfl, rfl, .ends x hd hdone⟩
  | @works _ _ k _ y hm => exact .inr ⟨{ s with current := k }, q, r, y, rfl, rfl, .works hm⟩
  | @stirs _ i _ _ k _ y hk hm =>
    exact .inr ⟨{ s with retired := s.retired.set i k }, q, r, y, rfl, rfl, .stirs hk hm⟩
  | elsewhere _ _ y => exact .inr ⟨s, q, r, y, rfl, rfl, .elsewhere _ x y⟩

theorem heard_eq_nil_or (e : Happening ρ σ) : e.heard = [] ∨ ∃ c, e = .hears (some c) := by
  cases e with
  | hears c? =>
    cases c? with
    | none => exact .inl rfl
    | some c => exact .inr ⟨c, rfl⟩
  | _ => exact .inl rfl

theorem spare_cons_of_heard_nil {n : Nat} (h : e.heard = []) : spare n (e :: es) = e :: spare n es := by
  cases e with
  | hears c? =>
    cases c? with
    | none => rw [spare] <;> simp
    | some c => cases h
  | _ => rw [spare] <;> simp

theorem outcomeOf?_cons_of_heard_nil {n : Nat} (h : e.heard = []) : outcomeOf? n (e :: es) = outcomeOf? n es := by
  cases e with
  | hears c? =>
    cases c? with
    | none => rw [outcomeOf?] <;> simp
    | some c => cases h
  | _ => rw [outcomeOf?] <;> simp

/-- A course with a reload that waits, and for which no keeper will be built, goes on as if it did not wait. -/
theorem Course.waiting {q r : List Control}
    (h : Course l others ({ s with inbox := q ++ .reload :: r }, x) es m')
    (hnone : ∀ p, outcomeOf? q.length es ≠ some (some p)) :
    ∃ n, Course l others ({ s with inbox := q ++ r }, x) (spare q.length es) n ∧ Alike m' n := by
  induction es generalizing s x q r with
  | nil =>
    cases h
    rw [spare]
    exact ⟨_, .nil _, rfl, rfl, rfl⟩
  | cons e es ih =>
    cases h with
    | cons he ho h =>
      rcases (happens_of_happen? he).waiting with ⟨rfl, rfl, hd, rfl⟩ | ⟨s', q', r', y, rfl, rfl, hs⟩
      · -- the reload itself is heard
        obtain ⟨n, hn, halike⟩ := h.listening (s := { s with inbox := r, calls := s.calls + 1 }) hd hnone
        obtain ⟨k, hk⟩ := hn.with_calls s.calls
        exact ⟨_, hk, halike.site, halike.retired, halike.current⟩
      · rcases heard_eq_nil_or e with hquiet | ⟨c, rfl⟩
        · rw [hquiet, List.nil_append] at hs hnone ⊢
          rw [outcomeOf?_cons_of_heard_nil hquiet] at hnone
          rw [spare_cons_of_heard_nil hquiet]
          obtain ⟨n, hn, halike⟩ := ih h hnone
          exact ⟨n, .cons hs.happen?_eq ho hn, halike⟩
        · obtain ⟨n, hn, halike⟩ := ih h hnone
          exact ⟨n, .cons hs.happen?_eq ho hn, halike⟩

/-- A course in which a reload is asked for, and no keeper is built for it, goes on as it would have without. -/
theorem Course.spared {m : Situation ρ σ} (h : Course l others m (.asks .reload :: es) m')
    (hnone : ∀ p, outcomeOf? m.1.inbox.length es ≠ some (some p)) :
    ∃ n, Course l others m (spare m.1.inbox.length es) n ∧ Alike m' n := by
  cases h with
  | cons he _ h =>
    have hasks := happens_of_happen? he
    cases hasks with
    | asks c x hc =>
      have hwaits := Course.waiting (q := _) (r := []) h hnone
      rwa [List.append_nil] at hwaits

end Spared

/-- In every course of happenings, at most one of the keepers that were launched is not done: those that retired
have ended all their rounds and move no more, and one that is to take over has not begun. When the supervisor has
ended, all are done. Requests are heard in order, and none after a stop or after the last; each reload that is
heard has a keeper built once, and the keepers are the first and those that were built, in order. Without a reload
for which no keeper is built, the same keepers would be at work at the same site. -/
theorem keepers_succeed_one_another {l : Link ρ σ} {others : Site σ → Site σ → Prop} (first : Pipeline ρ)
    (x : Site σ) {es : List (Happening ρ σ)} {m : Situation ρ σ} (h : Course l others (start first x) es m) :
    m.1.launched.countP (fun k => !k.isDone) ≤ 1 ∧
    (∀ k ∈ m.1.retired, k.Finished ∧ ∀ faults y, Keeper.moveUnder? l faults (k, y) = none) ∧
    (∀ next, m.1.duty = .handingOver next → next.loop.begun = 0 ∧ next.stage? = none) ∧
    (m.1.duty = .ended → ∀ k ∈ m.1.launched, k.Finished) ∧
    asked es = heard es ++ m.1.inbox ∧
    (∀ as bs c?, es = as ++ .hears c? :: bs → c? ≠ some .reload → heard bs = [] ∧ outcomes bs = []) ∧
    m.1.calls = (heard es).count .reload ∧
    (heard es).count .reload = (outcomes es).length + m.1.awaited ∧
    m.1.built.map (·.pipeline.config) = first.config :: ((outcomes es).filterMap id).map Pipeline.config ∧
    ∀ as bs n, es = as ++ .asks .reload :: bs → Course l others (start first x) as n →
      (∀ p, outcomeOf? n.1.inbox.length bs ≠ some (some p)) →
        ∃ m', Course l others (start first x) (as ++ spare n.1.inbox.length bs) m' ∧ Alike m m' := by
  have hstart := orderly_start first x
  have horderly := h.orderly hstart
  have hledger := h.ledger hstart
  refine ⟨horderly.countP_launched, fun k hk => ?_, fun next hd => horderly.next_not_begun hd,
    horderly.finished_of_ended, hledger.inbox, ?_, ?_, ?_, hledger.built, ?_⟩
  · exact ⟨horderly.retired k hk, fun faults y => (horderly.retired k hk).moveUnder?_eq_none⟩
  · rintro as bs c? rfl hc
    exact h.deaf hstart hc
  · exact hledger.calls.trans (Nat.zero_add _)
  · exact (Nat.zero_add _).symm.trans hledger.called
  · rintro as bs n rfl has hnone
    obtain ⟨n', has', hbs⟩ := h.exists_between
    cases has.unique has'
    obtain ⟨m', hm', halike⟩ := hbs.spared hnone
    exact ⟨m', has.append hm', halike⟩

/-- A reload that fails while a keeper is in its only round, and then a stop. -/
theorem failed_reload_then_stop :
    let p : Pipeline Unit := ⟨.initial, [], .empty, ()⟩
    let x : Site Cluster.Inventory := ⟨.start ⟨[]⟩, [], [], 0, .empty, ""⟩
    let es : List (Happening Unit Cluster.Inventory) :=
      [.works AtomicWrite.noFaults, .asks .reload, .hears (some .reload), .builds none, .asks .stop,
        .hears (some .stop), .works AtomicWrite.noFaults, .works AtomicWrite.noFaults,
        .works AtomicWrite.noFaults, .ends]
    ∃ m, run? .inventory es (start p x) = some m ∧ m.1.isOver = true ∧ m.1.calls = 1 ∧
      ∀ k ∈ m.1.launched, k.Finished := by
  intro p x es
  have hrun : (run? .inventory es (start p x)).map (fun m => m.1.isOver) = some true := by decide +kernel
  obtain ⟨m, hm, hover⟩ := Option.map_eq_some_iff.mp hrun
  have hcourse : Course .inventory (fun _ _ => True) (start p x) es m :=
    course_of_run? hm (by simp [es])
  have hended : m.1.duty = .ended := by
    rw [Supervision.isOver] at hover
    split at hover
    · assumption
    · cases hover
  obtain ⟨-, -, -, hfinished, -, -, hcalls, -⟩ := keepers_succeed_one_another p x hcourse
  exact ⟨m, hm, hover, hcalls, hfinished hended⟩

end Situation

end Stencil.Upkeep
