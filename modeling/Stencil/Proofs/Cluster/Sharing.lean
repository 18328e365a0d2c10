import Mathlib.Data.List.Basic
import Stencil.Cluster.Sharing
import Stencil.Proofs.Run

set_option autoImplicit false
set_option relaxedAutoImplicit false

/-!
What lookups find that are under way at the same time, in whatever order they and the flushes move.

The moves are taken apart once, into a relation with a constructor for each way in which an event is possible. A
cell never changes once it is filled, and a lookup keeps the cell that it got, so that two lookups with one cell
get one list. As long as nothing is flushed, the cell under a key stays; after a flush only cells that are made
then get into the table, and what fills those was asked for later.

Main statements: no two lookups ask the client for the same cell at one time, a lookup that gets its cell after a
flush does not return a list that was asked for before, and lookups of one key that get their cells between the
same two flushes return the same list.
-/

namespace Stencil.Cluster

def SharingEvent.Obtains (e : SharingEvent) (t : Nat) : Prop := e = .finds t ∨ e = .enters t

namespace Sharing

variable {x y : Sharing} {e : SharingEvent} {events : List SharingEvent}

def IsFetching (x : Sharing) (t c : Nat) : Prop := ∃ q begun, x.lookups[t]? = some ⟨q, .fetching c begun⟩

def HasReturned (x : Sharing) (t : Nat) (q : Query) (d : Delivery) : Prop :=
  ∃ c, x.lookups[t]? = some ⟨q, .returned c (.ok d)⟩

/-! ### The moves -/

/-- The moves, one constructor for each way in which an event is possible. -/
inductive Move (x : Sharing) : SharingEvent → Sharing → Prop
  | finds {t c : Nat} {q : Query} : x.lookups[t]? = some ⟨q, .searching⟩ → x.table.lookup q.key = some c →
      Move x (.finds t) ⟨x.lookups.set t ⟨q, .waiting c⟩, x.cells, x.table, x.moves + 1⟩
  | misses {t : Nat} {q : Query} : x.lookups[t]? = some ⟨q, .searching⟩ → x.table.lookup q.key = none →
      Move x (.misses t) ⟨x.lookups.set t ⟨q, .lacking⟩, x.cells, x.table, x.moves + 1⟩
  | entersFound {t c : Nat} {q : Query} : x.lookups[t]? = some ⟨q, .lacking⟩ → x.table.lookup q.key = some c →
      Move x (.enters t) ⟨x.lookups.set t ⟨q, .waiting c⟩, x.cells, x.table, x.moves + 1⟩
  | entersNew {t : Nat} {q : Query} : x.lookups[t]? = some ⟨q, .lacking⟩ → x.table.lookup q.key = none →
      Move x (.enters t) ⟨x.lookups.set t ⟨q, .waiting x.cells.length⟩, x.cells ++ [.idle],
        (q.key, x.cells.length) :: x.table, x.moves + 1⟩
  | starts {t c : Nat} {q : Query} : x.lookups[t]? = some ⟨q, .waiting c⟩ → x.cells[c]? = some .idle →
      Move x (.starts t) ⟨x.lookups.set t ⟨q, .fetching c x.moves⟩, x.cells.set c .busy, x.table, x.moves + 1⟩
  | succeeds {t c begun : Nat} {q : Query} (l : ObjectList) : x.lookups[t]? = some ⟨q, .fetching c begun⟩ →
      Move x (.succeeds t l) ⟨x.lookups.set t ⟨q, .waiting c⟩, x.cells.set c (.filled ⟨l, begun⟩), x.table,
        x.moves + 1⟩
  | fails {t c begun : Nat} {q : Query} (f : Failure) : x.lookups[t]? = some ⟨q, .fetching c begun⟩ →
      Move x (.fails t f) ⟨x.lookups.set t ⟨q, .refused c f⟩, x.cells.set c .idle, x.table, x.moves + 1⟩
  | returnsKept {t c : Nat} {q : Query} {d : Delivery} : x.lookups[t]? = some ⟨q, .waiting c⟩ →
      x.cells[c]? = some (.filled d) →
      Move x (.returns t) ⟨x.lookups.set t ⟨q, .returned c (.ok d)⟩, x.cells, x.table, x.moves + 1⟩
  | returnsRefused {t c : Nat} {q : Query} {f : Failure} : x.lookups[t]? = some ⟨q, .refused c f⟩ →
      Move x (.returns t) ⟨x.lookups.set t ⟨q, .returned c (.error f)⟩, x.cells, x.table, x.moves + 1⟩
  | flushes : Move x .flushes ⟨x.lookups, x.cells, [], x.moves + 1⟩

theorem move_of_step? (h : x.step? e = some y) : Move x e y := by
  obtain ⟨z, hz, rfl⟩ := Option.map_eq_some_iff.mp h
  cases e with
  | finds t =>
    rw [act?] at hz
    split at hz
    · next hl =>
      obtain ⟨c, hc, rfl⟩ := Option.map_eq_some_iff.mp hz
      exact .finds hl hc
    · cases hz
  | misses t =>
    rw [act?] at hz
    split at hz
    · next hl =>
      split at hz <;> cases hz
      next hc => exact .misses hl (Option.isNone_iff_eq_none.mp hc)
    · cases hz
  | enters t =>
    rw [act?] at hz
    split at hz
    · next q hl =>
      rw [enter] at hz
      cases hc : x.table.lookup q.key with
      | some c =>
        rw [hc] at hz
        cases hz
        exact .entersFound hl hc
      | none =>
        rw [hc] at hz
        cases hz
        exact .entersNew hl hc
    · cases hz
  | starts t =>
    rw [act?] at hz
    split at hz
    · next hl =>
      split at hz <;> cases hz
      next hc => exact .starts hl hc
    · cases hz
  | succeeds t l =>
    rw [act?] at hz
    split at hz <;> cases hz
    next hl => exact .succeeds l hl
  | fails t f =>
    rw [act?] at hz
    split at hz <;> cases hz
    next hl => exact .fails f hl
  | returns t =>
    rw [act?] at hz
    split at hz
    · next hl =>
      split at hz <;> cases hz
      next hc => exact .returnsKept hl hc
    · next hl =>
      cases hz
      exact .returnsRefused hl
    · cases hz
  | flushes =>
    cases hz
    exact .flushes

theorem step?_of_move (h : Move x e y) : x.step? e = some y := by
  cases h with
  | misses hl hc | entersFound hl hc | entersNew hl hc => simp only [step?, act?, enter, advance, hl, hc]; rfl
  | _ => simp_all [step?, act?, advance, setCell]

theorem step?_eq_some : x.step? e = some y ↔ Move x e y := ⟨move_of_step?, step?_of_move⟩

namespace Move

theorem moves_eq (h : Move x e y) : y.moves = x.moves + 1 := by cases h <;> rfl

theorem exists_lookup (h : Move x e y) {t : Nat} {l : Lookup} (hl : x.lookups[t]? = some l) :
    ∃ m, y.lookups[t]? = some m ∧ m.query = l.query ∧ ∀ c, l.stage.cell? = some c → m.stage.cell? = some c := by
  cases h <;> grind [Stage.cell?]

theorem had_cell (h : Move x e y) {t c : Nat} {m : Lookup} (hm : y.lookups[t]? = some m)
    (hc : m.stage.cell? = some c) :
    (∃ l, x.lookups[t]? = some l ∧ l.query = m.query ∧ l.stage.cell? = some c) ∨
      e.Obtains t ∧ y.table.lookup m.query.key = some c := by
  cases h <;> grind [Stage.cell?, SharingEvent.Obtains]

theorem obtained (h : Move x e y) {t : Nat} (he : e.Obtains t) :
    ∃ l c, y.lookups[t]? = some l ∧ l.stage.cell? = some c ∧ y.table.lookup l.query.key = some c := by
  rcases he with rfl | rfl
  · cases h with
    | finds hl hc => exact ⟨_, _, List.getElem?_set_self (List.getElem?_eq_some_iff.mp hl).1, rfl, hc⟩
  · cases h with
    | entersFound hl hc => exact ⟨_, _, List.getElem?_set_self (List.getElem?_eq_some_iff.mp hl).1, rfl, hc⟩
    | entersNew hl _ =>
      exact ⟨_, _, List.getElem?_set_self (List.getElem?_eq_some_iff.mp hl).1, rfl, List.lookup_cons_self⟩

theorem fetching (h : Move x e y) {t c b : Nat} {q : Query} (hl : y.lookups[t]? = some ⟨q, .fetching c b⟩) :
    x.lookups[t]? = some ⟨q, .fetching c b⟩ ∨ e = .starts t ∧ b = x.moves := by
  cases h <;> grind

theorem filled (h : Move x e y) {c : Nat} {d : Delivery} (hd : y.cells[c]? = some (.filled d)) :
    x.cells[c]? = some (.filled d) ∨
      ∃ t q, x.lookups[t]? = some ⟨q, .fetching c d.begun⟩ ∧ e = .succeeds t d.list := by
  cases h <;> grind

theorem cells_le (h : Move x e y) : x.cells.length ≤ y.cells.length := by cases h <;> simp

theorem tabled (h : Move x e y) : ∃ key, ∀ k c, y.table.lookup k = some c →
    x.table.lookup k = some c ∨ k = key ∧ c = x.cells.length ∧ c < y.cells.length := by
  cases h with
  | @entersNew t q hl hc => exact ⟨q.key, fun k c hk => by grind⟩
  | flushes =>
    refine ⟨"", fun k c hk => ?_⟩
    cases hk
  | _ => exact ⟨"", fun k c hk => .inl hk⟩

theorem lookup_table (h : Move x e y) (he : e ≠ .flushes) {key : String} {c : Nat}
    (hc : x.table.lookup key = some c) : y.table.lookup key = some c := by
  cases h <;> grind

end Move

/-! ### How lookups and cells stand to each other -/

/-- How lookups and cells stand to each other at any time. -/
structure Consistent (x : Sharing) : Prop where
  tabled : ∀ (key : String) (c : Nat), x.table.lookup key = some c → c < x.cells.length
  held : ∀ (t c : Nat) (l : Lookup), x.lookups[t]? = some l → l.stage.cell? = some c → c < x.cells.length
  busy : ∀ (t c b : Nat) (q : Query), x.lookups[t]? = some ⟨q, .fetching c b⟩ → x.cells[c]? = some .busy
  alone : ∀ (t u c b d : Nat) (q r : Query), x.lookups[t]? = some ⟨q, .fetching c b⟩ →
    x.lookups[u]? = some ⟨r, .fetching c d⟩ → t = u
  given : ∀ (t c : Nat) (q : Query) (d : Delivery), x.lookups[t]? = some ⟨q, .returned c (.ok d)⟩ →
    x.cells[c]? = some (.filled d)

theorem consistent_start (queries : List Query) : (start queries).Consistent := by
  constructor <;> grind [start, Stage.cell?]

theorem Move.made (h : Move x e y) (hx : x.Consistent) {k : String} {c : Nat} (hc : y.table.lookup k = some c) :
    c < y.cells.length := by
  obtain ⟨key, hkey⟩ := h.tabled
  rcases hkey k c hc with hold | ⟨-, -, hlt⟩
  · exact Nat.lt_of_lt_of_le (hx.tabled k c hold) h.cells_le
  · exact hlt

theorem Move.consistent (h : Move x e y) (hx : x.Consistent) : y.Consistent := by
  refine ⟨fun k c hc => h.made hx hc, fun t c m hm hc => ?held, ?busy, ?alone, ?given⟩
  case held =>
    rcases h.had_cell hm hc with ⟨l, hl, -, hcell⟩ | ⟨-, htable⟩
    · exact Nat.lt_of_lt_of_le (hx.held t c l hl hcell) h.cells_le
    · exact h.made hx htable
  -- who starts to ask finds the cell idle, and the cell of one who asks is busy
  all_goals
    obtain ⟨-, -, busy, alone, given⟩ := hx
    cases h <;> grind

/-- Every cell belongs to one key. -/
structure Keyed (x : Sharing) : Prop where
  tabled : ∀ (k l : String) (c : Nat), x.table.lookup k = some c → x.table.lookup l = some c → k = l
  held : ∀ (k : String) (t c : Nat) (l : Lookup), x.table.lookup k = some c → x.lookups[t]? = some l →
    l.stage.cell? = some c → l.query.key = k
  shared : ∀ (t u c : Nat) (l m : Lookup), x.lookups[t]? = some l → x.lookups[u]? = some m →
    l.stage.cell? = some c → m.stage.cell? = some c → l.query.key = m.query.key

theorem keyed_start (queries : List Query) : (start queries).Keyed := by
  constructor <;> grind [start, Stage.cell?]

theorem Move.keyed (h : Move x e y) (hx : x.Consistent) (hk : x.Keyed) : y.Keyed := by
  obtain ⟨key, hkey⟩ := h.tabled
  have htabled : ∀ k l c, y.table.lookup k = some c → y.table.lookup l = some c → k = l := by
    intro k l c hkc hlc
    rcases hkey k c hkc with hkold | ⟨rfl, rfl, -⟩ <;> rcases hkey l _ hlc with hlold | ⟨rfl, hnew, -⟩
    · exact hk.tabled k l c hkold hlold
    · exact absurd (hx.tabled k c hkold) (by omega)
    · exact absurd (hx.tabled l _ hlold) (Nat.lt_irrefl _)
    · rfl
  have hheld : ∀ (k : String) (t c : Nat) (m : Lookup), y.table.lookup k = some c → y.lookups[t]? = some m →
      m.stage.cell? = some c → m.query.key = k := by
    intro k t c m hkc hm hc
    rcases h.had_cell hm hc with ⟨l, hl, hquery, hcell⟩ | ⟨-, htable⟩
    · rcases hkey k c hkc with hold | ⟨-, rfl, -⟩
      · rw [← hquery]
        exact hk.held k t c l hold hl hcell
      · exact absurd (hx.held t _ l hl hcell) (Nat.lt_irrefl _)
    · exact htabled _ k c htable hkc
  refine ⟨htabled, hheld, fun t u c m n hm hn hc hd => ?_⟩
  rcases h.had_cell hm hc with ⟨l, hl, hquery, hcell⟩ | ⟨-, htable⟩
  · rcases h.had_cell hn hd with ⟨l', hl', hquery', hcell'⟩ | ⟨-, htable⟩
    · rw [← hquery, ← hquery']
      exact hk.shared t u c l l' hl hl' hcell hcell'
    · exact hheld _ t c m htable hm hc
  · exact (hheld _ u c n htable hn hd).symm

/-- Every list was asked for by one of the moves, and given by a later one. -/
structure Sourced (events : List SharingEvent) (x : Sharing) : Prop where
  moves : x.moves = events.length
  fetching : ∀ (t c b : Nat) (q : Query), x.lookups[t]? = some ⟨q, .fetching c b⟩ → events[b]? = some (.starts t)
  filled : ∀ (c : Nat) (d : Delivery), x.cells[c]? = some (.filled d) → ∃ (u i : Nat) (l : Lookup),
    x.lookups[u]? = some l ∧ l.stage.cell? = some c ∧ events[d.begun]? = some (.starts u) ∧ d.begun < i ∧
      events[i]? = some (.succeeds u d.list)

theorem sourced_start (queries : List Query) : (start queries).Sourced [] := by
  constructor <;> grind [start]

theorem Move.sourced (h : Move x e y) (hx : x.Sourced events) : y.Sourced (events ++ [e]) := by
  have earlier {i : Nat} {f : SharingEvent} (hf : events[i]? = some f) : (events ++ [e])[i]? = some f := by
    rw [List.getElem?_append_left (List.getElem?_eq_some_iff.mp hf).1, hf]
  have last : (events ++ [e])[events.length]? = some e := List.getElem?_concat_length
  refine ⟨?moves, fun t c b q hl => ?fetching, fun c d hd => ?filled⟩
  case moves => rw [h.moves_eq, hx.moves, List.length_append, List.length_singleton]
  case fetching =>
    rcases h.fetching hl with hl | ⟨rfl, rfl⟩
    · exact earlier (hx.fetching t c b q hl)
    · rw [hx.moves]
      exact last
  case filled =>
    rcases h.filled hd with hd | ⟨t, q, hl, rfl⟩
    · obtain ⟨u, i, l, hl, hc, hstart, hlt, hgiven⟩ := hx.filled c d hd
      obtain ⟨m, hm, -, hkeep⟩ := h.exists_lookup hl
      exact ⟨u, i, m, hm, hkeep c hc, earlier hstart, hlt, earlier hgiven⟩
    · have hstart := hx.fetching t c d.begun q hl
      obtain ⟨m, hm, -, hkeep⟩ := h.exists_lookup hl
      exact ⟨t, events.length, m, hm, hkeep c rfl, earlier hstart, (List.getElem?_eq_some_iff.mp hstart).1, last⟩

/-! ### Runs -/

theorem run_induction {motive : List SharingEvent → Sharing → Prop} (hstart : motive [] x)
    (hmove : ∀ {events e y z}, x.run? events = some y → Move y e z → motive events y → motive (events ++ [e]) z)
    (h : x.run? events = some y) : motive events y :=
  Run.induction hstart (fun hrun hstep => hmove hrun (step?_eq_some.mp hstep)) h

theorem Consistent.run (hx : x.Consistent) (h : x.run? events = some y) : y.Consistent :=
  run_induction hx (fun _ hm hy => hm.consistent hy) h

theorem Keyed.run (hx : x.Consistent) (hk : x.Keyed) (h : x.run? events = some y) : y.Keyed :=
  run_induction hk (fun hrun hm hy => hm.keyed (hx.run hrun) hy) h

theorem sourced_run {queries : List Query} (h : (start queries).run? events = some x) : x.Sourced events :=
  run_induction (sourced_start queries) (fun _ hm hy => hm.sourced hy) h

theorem exists_lookup_run (h : x.run? events = some y) {t : Nat} {l : Lookup} (hl : x.lookups[t]? = some l) :
    ∃ m, y.lookups[t]? = some m ∧ m.query = l.query ∧ ∀ c, l.stage.cell? = some c → m.stage.cell? = some c := by
  refine run_induction (motive := fun _ y => ∃ m, y.lookups[t]? = some m ∧ m.query = l.query ∧
    ∀ c, l.stage.cell? = some c → m.stage.cell? = some c) ⟨l, hl, rfl, fun _ hc => hc⟩ ?_ h
  rintro events e y z - hm ⟨m, hy, hquery, hcell⟩
  obtain ⟨n, hz, hnext, hkeep⟩ := hm.exists_lookup hy
  exact ⟨n, hz, hnext.trans hquery, fun c hc => hkeep c (hcell c hc)⟩

theorem exists_obtains_run {queries : List Query} (h : (start queries).run? events = some x) {t c : Nat} {l : Lookup}
    (hl : x.lookups[t]? = some l) (hc : l.stage.cell? = some c) : ∃ e ∈ events, e.Obtains t := by
  refine run_induction (motive := fun events x => ∀ l, x.lookups[t]? = some l → l.stage.cell? = some c →
    ∃ e ∈ events, e.Obtains t) ?_ ?_ h l hl hc
  · grind [start, Stage.cell?]
  · intro events e y z _ hm hy l hl hc
    rcases hm.had_cell hl hc with ⟨m, hm, -, hcell⟩ | ⟨he, -⟩
    · obtain ⟨f, hf, hobtains⟩ := hy m hm hcell
      exact ⟨f, List.mem_append_left [e] hf, hobtains⟩
    · exact ⟨e, List.mem_append_right events List.mem_cons_self, he⟩

/-! ### After a flush -/

/-- What holds since the table was flushed, when there were so many cells and so many moves had been made: cells
that were made since are the only ones in the table, the only ones that the lookups get that had none, and what
fills them was asked for since. -/
structure Flushed (cells moves : Nat) (late : Nat → Prop) (x : Sharing) : Prop where
  cells_le : cells ≤ x.cells.length
  moves_le : moves ≤ x.moves
  tabled : ∀ (key : String) (c : Nat), x.table.lookup key = some c → cells ≤ c
  late : ∀ (t c : Nat) (l : Lookup), late t → x.lookups[t]? = some l → l.stage.cell? = some c → cells ≤ c
  fetching : ∀ (t c b : Nat) (q : Query), x.lookups[t]? = some ⟨q, .fetching c b⟩ → cells ≤ c → moves ≤ b
  filled : ∀ (c : Nat) (d : Delivery), x.cells[c]? = some (.filled d) → cells ≤ c → moves ≤ d.begun

variable {cells moves : Nat} {late : Nat → Prop}

theorem Move.flushed (h : Move x e y) (hx : Flushed cells moves late x) : Flushed cells moves late y := by
  obtain ⟨key, hkey⟩ := h.tabled
  have htabled : ∀ k c, y.table.lookup k = some c → cells ≤ c := by
    intro k c hc
    rcases hkey k c hc with hold | ⟨-, rfl, -⟩
    · exact hx.tabled k c hold
    · exact hx.cells_le
  refine ⟨Nat.le_trans hx.cells_le h.cells_le, ?moves, htabled, fun t c m ht hm hc => ?late, fun t c b q hl hle => ?fetching,
    fun c d hd hle => ?filled⟩
  case moves =>
    rw [h.moves_eq]
    exact Nat.le_succ_of_le hx.moves_le
  case late =>
    rcases h.had_cell hm hc with ⟨l, hl, -, hcell⟩ | ⟨-, htable⟩
    · exact hx.late t c l ht hl hcell
    · exact htabled _ c htable
  case fetching =>
    rcases h.fetching hl with hl | ⟨-, rfl⟩
    · exact hx.fetching t c b q hl hle
    · exact hx.moves_le
  case filled =>
    rcases h.filled hd with hd | ⟨t, q, hl, -⟩
    · exact hx.filled c d hd hle
    · exact hx.fetching t c d.begun q hl hle

theorem flushed_of_flush (hx : x.Consistent) :
    Flushed x.cells.length (x.moves + 1) (fun t => ∀ l, x.lookups[t]? = some l → l.stage.cell? = none)
      ⟨x.lookups, x.cells, [], x.moves + 1⟩ where
  cells_le := Nat.le_refl _
  moves_le := Nat.le_refl _
  tabled _ _ hc := nomatch hc
  late t c l hnone hl hc := by
    rw [hnone l hl] at hc
    cases hc
  fetching t c b q hl hle := absurd (hx.held t c _ hl rfl) (Nat.not_lt.mpr hle)
  filled c d hd hle := absurd (List.getElem?_eq_some_iff.mp hd).1 (Nat.not_lt.mpr hle)

theorem begun_after_flush {queries : List Query} {before after : List SharingEvent}
    (h : (start queries).run? (before ++ .flushes :: after) = some x) {t c : Nat} {q : Query} {d : Delivery}
    (ht : ∀ e ∈ before, ¬e.Obtains t) (hd : x.lookups[t]? = some ⟨q, .returned c (.ok d)⟩) :
    before.length < d.begun := by
  obtain ⟨y, y', hy, hstep, hafter⟩ := Run.exists_step_of_run h
  have hcons := (consistent_start queries).run hy
  cases move_of_step? hstep with
  | flushes =>
    have hflushed := run_induction (motive := fun _ => Flushed y.cells.length (y.moves + 1)
      fun t => ∀ l, y.lookups[t]? = some l → l.stage.cell? = none) (flushed_of_flush hcons)
      (fun _ hm hz => hm.flushed hz) hafter
    have hlate : ∀ l, y.lookups[t]? = some l → l.stage.cell? = none := by
      intro l hl
      by_contra hcell
      obtain ⟨c, hc⟩ := Option.ne_none_iff_exists'.mp hcell
      obtain ⟨e, he, hobtains⟩ := exists_obtains_run hy hl hc
      exact ht e he hobtains
    have hfilled := ((consistent_start queries).run h).given t c q d hd
    rw [← (sourced_run hy).moves]
    exact hflushed.filled c d hfilled (hflushed.late t c _ hlate hd rfl)

/-! ### Between two flushes -/

theorem exists_cell_of_obtains (h : x.run? events = some y) (hflush : SharingEvent.flushes ∉ events) {t : Nat}
    (ht : ∃ e ∈ events, e.Obtains t) :
    ∃ l c, y.lookups[t]? = some l ∧ l.stage.cell? = some c ∧ y.table.lookup l.query.key = some c := by
  refine run_induction (motive := fun events y => SharingEvent.flushes ∉ events → (∃ e ∈ events, e.Obtains t) →
    ∃ l c, y.lookups[t]? = some l ∧ l.stage.cell? = some c ∧ y.table.lookup l.query.key = some c) ?_ ?_ h hflush ht
  · rintro - ⟨e, he, -⟩
    cases he
  · rintro events e y z - hm ih hflush ⟨f, hf, hobtains⟩
    rw [List.mem_append, List.mem_singleton, not_or] at hflush
    rcases List.mem_append.mp hf with hf | hf
    · obtain ⟨l, c, hl, hc, htable⟩ := ih hflush.1 ⟨f, hf, hobtains⟩
      obtain ⟨m, hmem, hquery, hkeep⟩ := hm.exists_lookup hl
      rw [← hquery] at htable
      exact ⟨m, c, hmem, hkeep c hc, hm.lookup_table (Ne.symm hflush.2) htable⟩
    · obtain rfl := List.mem_singleton.mp hf
      exact hm.obtained hobtains

theorem eq_of_obtains {queries : List Query} {before between after : List SharingEvent}
    (h : (start queries).run? (before ++ between ++ after) = some x) (hflush : SharingEvent.flushes ∉ between)
    {t u : Nat} (ht : ∃ e ∈ between, e.Obtains t) (hu : ∃ e ∈ between, e.Obtains u) {l m : Lookup} {c c' : Nat}
    (hl : x.lookups[t]? = some l) (hm : x.lookups[u]? = some m) (hkey : l.query.key = m.query.key)
    (hc : l.stage.cell? = some c) (hc' : m.stage.cell? = some c') : c = c' := by
  obtain ⟨z, hz, hafter⟩ := Run.append_eq_some_iff.mp h
  obtain ⟨y, -, hbetween⟩ := Run.append_eq_some_iff.mp hz
  -- the cell that a lookup has in the end is the one under its key in between
  have htabled {t c : Nat} {l : Lookup} (ht : ∃ e ∈ between, e.Obtains t) (hl : x.lookups[t]? = some l)
      (hc : l.stage.cell? = some c) : z.table.lookup l.query.key = some c := by
    obtain ⟨k, b, hk, hb, htable⟩ := exists_cell_of_obtains hbetween hflush ht
    obtain ⟨m, hm, hquery, hkeep⟩ := exists_lookup_run hafter hk
    obtain rfl : m = l := Option.some.inj (hm.symm.trans hl)
    obtain rfl : b = c := Option.some.inj ((hkeep b hb).symm.trans hc)
    rw [hquery]
    exact htable
  have hsame := htabled ht hl hc
  rw [hkey, htabled hu hm hc'] at hsame
  exact (Option.some.inj hsame).symm

/-- However any number of lookups and flushes interleave: no two lookups ask the client for the same cell at one
time. A list that a lookup returns was asked for, and given later, by one with the same key, and it was asked for
after every flush before which the lookup had no cell. Lookups of one key that get their cells between the same two
flushes return the same list, asked for by the same move. -/
theorem lookups_share_fresh_lists {queries : List Query} (h : (start queries).run? events = some x) :
    (∀ t u c, x.IsFetching t c → x.IsFetching u c → t = u) ∧
    (∀ t q d, x.HasReturned t q d →
      (∃ (u i : Nat) (l : Lookup), x.lookups[u]? = some l ∧ l.query.key = q.key ∧
        events[d.begun]? = some (.starts u) ∧ d.begun < i ∧ events[i]? = some (.succeeds u d.list)) ∧
      ∀ before after, events = before ++ .flushes :: after → (∀ e ∈ before, ¬e.Obtains t) →
        before.length < d.begun) ∧
    (∀ before between after, events = before ++ between ++ after → SharingEvent.flushes ∉ between →
      ∀ t u, (∃ e ∈ between, e.Obtains t) → (∃ e ∈ between, e.Obtains u) →
      ∀ q r d d', x.HasReturned t q d → x.HasReturned u r d' → q.key = r.key → d = d') := by
  have hx := (consistent_start queries).run h
  have hkeyed := (keyed_start queries).run (consistent_start queries) h
  refine ⟨?alone, fun t q d ⟨c, hd⟩ => ⟨?source, ?fresh⟩, ?same⟩
  case alone =>
    rintro t u c ⟨q, b, ht⟩ ⟨r, b', hu⟩
    exact hx.alone t u c b b' q r ht hu
  case source =>
    obtain ⟨u, i, l, hl, hc, hstart, hlt, hgiven⟩ := (sourced_run h).filled c d (hx.given t c q d hd)
    exact ⟨u, i, l, hl, hkeyed.shared u t c l _ hl hd hc rfl, hstart, hlt, hgiven⟩
  case fresh =>
    rintro before after rfl ht
    exact begun_after_flush h ht hd
  case same =>
    rintro before between after rfl hflush t u ht hu q r d d' ⟨c, hd⟩ ⟨c', hd'⟩ hkey
    obtain rfl := eq_of_obtains h hflush ht hu hd hd' hkey rfl rfl
    exact SharedCell.filled.inj (Option.some.inj ((hx.given t c q d hd).symm.trans (hx.given u c r d' hd')))

def podsQuery : Query := Query.of .pods none ""

/-- Moves of four lookups of one key. A fetch fails while another lookup waits for it, which asks again; the table is
flushed before it has an answer, and the two lookups that come then share a cell that is made after the flush. -/
def straddlingFlush : List SharingEvent := [
  .misses 0, .enters 0, .starts 0, .finds 1, .fails 0 (.request .pods), .starts 1, .flushes,
  .misses 2, .misses 3, .enters 3, .enters 2, .starts 2, .succeeds 1 ⟨.pods, []⟩, .returns 1,
  .succeeds 2 ⟨.pods, [.obj []]⟩, .returns 3, .returns 2, .returns 0]

/-- The lookups after the flush return one list, although the one before it is given, and returned, only then. -/
theorem lookups_after_flush_share_list :
    ∃ x d, (start [podsQuery, podsQuery, podsQuery, podsQuery]).run? straddlingFlush = some x ∧
      x.HasReturned 1 podsQuery ⟨⟨.pods, []⟩, 5⟩ ∧ x.HasReturned 2 podsQuery d ∧ x.HasReturned 3 podsQuery d ∧
      6 < d.begun := by
  obtain ⟨x, hrun, hfirst, hsecond, hthird⟩ :
      ∃ x, (start [podsQuery, podsQuery, podsQuery, podsQuery]).run? straddlingFlush = some x ∧
        x.HasReturned 1 podsQuery ⟨⟨.pods, []⟩, 5⟩ ∧ x.HasReturned 2 podsQuery ⟨⟨.pods, [.obj []]⟩, 11⟩ ∧
        ∃ d, x.HasReturned 3 podsQuery d := ⟨_, rfl, ⟨0, rfl⟩, ⟨1, rfl⟩, _, 1, rfl⟩
  obtain ⟨d, hthird⟩ := hthird
  obtain ⟨-, hfresh, hsame⟩ := lookups_share_fresh_lists hrun
  have hlater := (hfresh 2 podsQuery _ hsecond).2 (straddlingFlush.take 6) (straddlingFlush.drop 7) rfl
    (by simp [straddlingFlush, SharingEvent.Obtains])
  have hone := hsame (straddlingFlush.take 7) (straddlingFlush.drop 7) [] rfl (by simp [straddlingFlush]) 2 3
    ⟨.enters 2, by simp [straddlingFlush], .inr rfl⟩ ⟨.enters 3, by simp [straddlingFlush], .inr rfl⟩ _ _ _ _
    hsecond hthird rfl
  subst hone
  exact ⟨x, _, hrun, hfirst, hsecond, hthird, hlater⟩

end Sharing

end Stencil.Cluster
