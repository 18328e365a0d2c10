import Stencil.Proofs.Cluster.Mirroring
import Stencil.Proofs.Table

set_option autoImplicit false
set_option relaxedAutoImplicit false

/-!
A question to a client that keeps mirrors, asked while nobody else moves. Main statement: it gets the answer that the
`Remote` of these mirrors gives, or waits where that has none yet, and leaves the mirrors that the `Remote` has then.
-/

namespace Stencil.Cluster

/-- The mirror in a cell, which holds nothing while it is being started. -/
def MirrorCell.content (mirrors : List Replica) : MirrorCell → Option Mirror
  | .idle => none
  | .busy => some .starting
  | .filled m => mirrors[m]?.map Replica.content

namespace Mirroring

open Stencil.Label Stencil.Table

variable {x y z : Mirroring} {e : MirroringEvent} {events : List MirroringEvent} {r : Remote} {t c m : Nat} {q : Query}
  {s : Selector} {k : Kind}

def mirrorOf? (x : Mirroring) (k : Kind) : Option Mirror :=
  (x.table.lookup k).bind fun c => x.cells[c]?.bind fun cell => cell.content x.mirrors

/-- The mirrors are those of a client. One that was told to stop has forgotten those that hold no list. -/
def Shows (x : Mirroring) (r : Remote) : Prop :=
  x.stopped = r.stopped ∧
    ∀ k, x.mirrorOf? k = if r.stopped then (r.mirrors.lookup k).filter Mirror.isSynced else r.mirrors.lookup k

theorem run?_cons_of_move (h : Move x e y) (hrun : y.run? events = some z) : x.run? (e :: events) = some z := by
  rw [run?, List.foldlM_cons, step?_of_move h]
  exact hrun

theorem run?_of_move (h : Move x e y) : x.run? [e] = some y := run?_cons_of_move h rfl

theorem shows_start (queries : List Query) (server : Server) :
    (start queries).Shows (Remote.start .cached server) :=
  ⟨rfl, fun _ => rfl⟩

theorem Shows.lookup (h : x.Shows r) {mirror : Mirror} (hk : x.mirrorOf? k = some mirror) :
    r.mirrors.lookup k = some mirror := by
  rw [h.2 k] at hk
  split at hk
  · exact (Option.filter_eq_some_iff.mp hk).1
  · exact hk

theorem mirrorOf?_of_cell {cell : MirrorCell} (hc : x.table.lookup k = some c) (hcell : x.cells[c]? = some cell) :
    x.mirrorOf? k = cell.content x.mirrors := by
  rw [mirrorOf?, hc, Option.bind_some, hcell, Option.bind_some]

/-- Where one cell changes and mirrors are added, only the mirror of the kind of that cell changes. -/
theorem mirrorOf?_change (hx : x.Consistent) (hs : x.Supplied) {kind : Kind} (hc : x.table.lookup kind = some c)
    (cell : MirrorCell) (more : List Replica) (listings : List Listing) (stopped : Bool) (k : Kind) :
    mirrorOf? ⟨listings, x.cells.set c cell, x.table, x.mirrors ++ more, stopped⟩ k =
      if k = kind then cell.content (x.mirrors ++ more) else x.mirrorOf? k := by
  split
  · next h =>
    subst h
    exact mirrorOf?_of_cell hc (List.getElem?_set_self (hx.tabled k c hc))
  · next h =>
    rw [mirrorOf?, mirrorOf?]
    cases hb : x.table.lookup k with
    | none => rfl
    | some b =>
      have hne : c ≠ b := fun hcb => h (hx.apart k kind b hb (hcb ▸ hc))
      rw [Option.bind_some, Option.bind_some, List.getElem?_set_ne hne]
      cases hcell : x.cells[b]? with
      | none => rfl
      | some old =>
        cases old with
        | idle | busy => rfl
        | filled m =>
          obtain ⟨r, hr, -⟩ := hs.kept k m ⟨b, hb, hcell⟩
          have hlt := (List.getElem?_eq_some_iff.mp hr).1
          simp [MirrorCell.content, List.getElem?_append_left hlt]

theorem exists_run_waiting (hx : x.Consistent) (hshow : x.Shows r) (hl : x.listings[t]? = some ⟨q, .reading⟩)
    (hq : q.parseSelector = .ok s) :
    ∃ events y c, x.run? events = some y ∧ y.listings[t]? = some ⟨q, .waiting s c⟩ ∧ y.Shows r := by
  have hlt := (List.getElem?_eq_some_iff.mp hl).1
  have hread : (x.listings.set t ⟨q, .searching s⟩)[t]? = some ⟨q, .searching s⟩ := List.getElem?_set_self hlt
  have hlt' : t < (x.listings.set t ⟨q, .searching s⟩).length := by rwa [List.length_set]
  cases hc : x.table.lookup q.kind with
  | some c =>
    exact ⟨[.reads t, .enters t], _, c, run?_cons_of_move (.reads hl hq) (run?_of_move (.entersFound hread hc)),
      List.getElem?_set_self hlt', hshow⟩
  | none =>
    refine ⟨[.reads t, .enters t], _, x.cells.length,
      run?_cons_of_move (.reads hl hq) (run?_of_move (.entersNew hread hc)), List.getElem?_set_self hlt', hshow.1,
      fun k => ?_⟩
    rw [← hshow.2 k]
    by_cases hk : k = q.kind
    · subst hk
      simp [mirrorOf?, hc, MirrorCell.content]
    · change (((q.kind, x.cells.length) :: x.table).lookup k).bind _ = _
      rw [lookup_cons_ne _ _ hk, mirrorOf?]
      cases hb : x.table.lookup k with
      | none => rfl
      | some b => simp [List.getElem?_append_left (hx.tabled k b hb)]

/-- A question that finds its cell empty may start a mirror and be answered from its first list. -/
theorem exists_run_synced (hl : x.listings[t]? = some ⟨q, .waiting s c⟩) (hc : x.cells[c]? = some .idle)
    (objects : List Object) :
    ∃ events listings, x.run? events = some ⟨listings, x.cells.set c (.filled x.mirrors.length), x.table,
        x.mirrors ++ [⟨q.kind, .ofList objects, false⟩], x.stopped⟩ ∧
      listings[t]? = some
        ⟨q, .answered (some x.mirrors.length) (.ok (Remote.fromMirror q s (Mirror.ofList objects).objects))⟩ := by
  have hlt := (List.getElem?_eq_some_iff.mp hl).1
  refine ⟨[.starts t, .lists x.mirrors.length objects, .readies t, .answers t], x.listings.set t
    ⟨q, .answered (some x.mirrors.length) (.ok (Remote.fromMirror q s (Mirror.ofList objects).objects))⟩, ?_,
    List.getElem?_set_self hlt⟩
  simp [run?, step?, advance, setCell, setMirror, startMirror, hl, hc, List.getElem?_set_self hlt, Replica.isReady]

/-- A question that finds its cell empty may start a mirror and give up when the client was told to stop. -/
theorem exists_run_givesUp (hl : x.listings[t]? = some ⟨q, .waiting s c⟩) (hc : x.cells[c]? = some .idle)
    (hstop : x.stopped = true) :
    ∃ events listings, x.run? events = some ⟨listings, x.cells.set c .idle, x.table,
        x.mirrors ++ [⟨q.kind, .starting, false⟩], x.stopped⟩ ∧
      listings[t]? = some ⟨q, .answered (some x.mirrors.length) (.error (.syncFailed q.kind))⟩ := by
  have hlt := (List.getElem?_eq_some_iff.mp hl).1
  refine ⟨[.starts t, .givesUp t], x.listings.set t
    ⟨q, .answered (some x.mirrors.length) (.error (.syncFailed q.kind))⟩, ?_, List.getElem?_set_self hlt⟩
  simp [run?, step?, advance, setCell, startMirror, hl, hc, List.getElem?_set_self hlt, hstop]

theorem startMirror_eq (kind : Kind) (r : Remote) :
    Remote.startMirror kind r = { r with
      requests := r.requests ++ [Request.all kind]
      mirrors := (kind, ((r.server (Request.all kind)).objects? kind).elim .starting .ofList) :: r.mirrors } := by
  rw [Remote.startMirror, Remote.send]
  dsimp only
  cases (r.server (Request.all kind)).objects? kind <;> rfl

theorem askMirror_of_synced {objects : List Object} (h : r.mirrors.lookup q.kind = some (.synced objects)) :
    Remote.askMirror q s r = (.done (.ok (Remote.fromMirror q s objects)), r) := by
  simp only [Remote.askMirror, h]

theorem askMirror_of_starting (h : r.mirrors.lookup q.kind = some .starting) (hstop : r.stopped = false) :
    Remote.askMirror q s r = (.waiting, r) := by
  simp only [Remote.askMirror, h, hstop]
  rfl

theorem askMirror_of_stopped (h : r.mirrors.lookup q.kind = none ∨ r.mirrors.lookup q.kind = some .starting)
    (hstop : r.stopped = true) : Remote.askMirror q s r = (.done (.error (.syncFailed q.kind)), r) := by
  rcases h with h | h <;> simp [Remote.askMirror, h, hstop]

theorem askMirror_of_none (h : r.mirrors.lookup q.kind = none) (hstop : r.stopped = false) :
    Remote.askMirror q s r =
      (((r.server (Request.all q.kind)).objects? q.kind).elim .waiting
        fun objects => .done (.ok (Remote.fromMirror q s (Mirror.ofList objects).objects)),
        Remote.startMirror q.kind r) := by
  have hfirst := startMirror_eq q.kind r
  rw [Remote.askMirror, h, hstop, hfirst]
  dsimp only
  rw [List.lookup_cons_self]
  cases (r.server (Request.all q.kind)).objects? q.kind <;> rfl

/-- The question has the answer, or waits where there is none yet. -/
def IsAt (x : Mirroring) (t : Nat) (q : Query) : Remote.Progress → Prop
  | .done a => ∃ m?, x.listings[t]? = some ⟨q, .answered m? a⟩
  | .waiting => ∃ stage, x.listings[t]? = some ⟨q, stage⟩ ∧ stage.cell?.isSome = true

/-- A question that waits while nobody else moves gets the answer that the mirrors of the client give. -/
theorem exists_run_askMirror (hx : x.Consistent) (hs : x.Supplied) (hshow : x.Shows r)
    (hl : x.listings[t]? = some ⟨q, .waiting s c⟩) :
    ∃ events y, x.run? events = some y ∧ y.IsAt t q (Remote.askMirror q s r).1 ∧
      y.Shows (Remote.askMirror q s r).2 := by
  have hlt := (List.getElem?_eq_some_iff.mp hl).1
  have htable := hx.held t c _ hl rfl
  obtain ⟨cell, hcell⟩ : ∃ cell, x.cells[c]? = some cell := ⟨_, List.getElem?_eq_getElem (hx.tabled _ c htable)⟩
  have hmirror := mirrorOf?_of_cell htable hcell
  cases cell with
  | filled m =>
    -- a mirror that fills a cell holds its first list, so that the client answers from it even if it was told to stop
    obtain ⟨⟨kind, content, ended⟩, hr, -, hready⟩ := hs.kept q.kind m ⟨c, htable, hcell⟩
    cases content with
    | starting => cases hready
    | synced objects =>
      rw [MirrorCell.content, hr] at hmirror
      rw [askMirror_of_synced (hshow.lookup hmirror)]
      have hholds : (x.listings.set t ⟨q, .holding s m⟩)[t]? = some ⟨q, .holding s m⟩ := List.getElem?_set_self hlt
      exact ⟨[.finds t, .answers t], _, run?_cons_of_move (.finds hl hcell) (run?_of_move (.answers hholds hr)),
        ⟨some m, List.getElem?_set_self (by rwa [List.length_set])⟩, hshow⟩
  | busy =>
    -- a client that was told to stop shows no mirror that is still being started
    have hstop : r.stopped = false := by
      by_contra hstop
      rw [hshow.2, if_pos (by simpa using hstop)] at hmirror
      cases (Option.filter_eq_some_iff.mp hmirror).2
    rw [askMirror_of_starting (hshow.lookup hmirror) hstop]
    exact ⟨[], x, rfl, ⟨_, hl, rfl⟩, hshow⟩
  | idle =>
    cases hstop : r.stopped with
    | true =>
      have hlookup : r.mirrors.lookup q.kind = none ∨ r.mirrors.lookup q.kind = some .starting := by
        rw [hshow.2, if_pos hstop] at hmirror
        cases hm : r.mirrors.lookup q.kind with
        | none => exact .inl rfl
        | some mirror =>
          cases mirror with
          | starting => exact .inr rfl
          | synced objects =>
            rw [hm] at hmirror
            cases hmirror
      obtain ⟨events, listings, hrun, hanswered⟩ := exists_run_givesUp hl hcell (hshow.1.trans hstop)
      rw [askMirror_of_stopped hlookup hstop]
      refine ⟨events, _, hrun, ⟨_, hanswered⟩, hshow.1, fun k => ?_⟩
      rw [mirrorOf?_change hx hs htable, ← hshow.2 k]
      split
      · next hk => rw [hk, hmirror]; rfl
      · rfl
    | false =>
      rw [hshow.2, hstop] at hmirror
      have hothers (k : Kind) (hk : k ≠ q.kind) (mirror : Mirror) :
          x.mirrorOf? k = ((q.kind, mirror) :: r.mirrors).lookup k := by
        rw [lookup_cons_ne _ _ hk, hshow.2, hstop]
        rfl
      rw [askMirror_of_none hmirror hstop, startMirror_eq]
      cases (r.server (Request.all q.kind)).objects? q.kind with
      | none =>
        refine ⟨[.starts t], _, run?_of_move (.starts hl hcell), ⟨_, List.getElem?_set_self hlt, rfl⟩, hshow.1,
          fun k => ?_⟩
        rw [mirrorOf?_change hx hs htable]
        split
        · next hk => simp [hk, hstop, MirrorCell.content]
        · next hk => simp [hothers k hk .starting, hstop]
      | some objects =>
        obtain ⟨events, listings, hrun, hanswered⟩ := exists_run_synced hl hcell objects
        refine ⟨events, _, hrun, ⟨_, hanswered⟩, hshow.1, fun k => ?_⟩
        rw [mirrorOf?_change hx hs htable]
        split
        · next hk => simp [hk, hstop, MirrorCell.content]
        · next hk => simp [hothers k hk (.ofList objects), hstop]

/-- A question that is asked while nobody else moves gets the answer that the client gives, or waits where that has none
yet, and leaves the mirrors that the client has then. -/
theorem exists_run_ask (hx : x.Consistent) (hs : x.Supplied) (hshow : x.Shows r) (hmode : r.mode = .cached)
    (hl : x.listings[t]? = some ⟨q, .reading⟩) :
    ∃ events y, x.run? events = some y ∧ y.IsAt t q (Remote.ask q r).1 ∧ y.Shows (Remote.ask q r).2 := by
  rw [Remote.ask, hmode]
  cases hq : q.parseSelector with
  | error f =>
    have hlt := (List.getElem?_eq_some_iff.mp hl).1
    exact ⟨[.reads t], _, run?_of_move (.rejects hl hq), ⟨none, List.getElem?_set_self hlt⟩, hshow⟩
  | ok s =>
    obtain ⟨before, y, c, hrun, hwaiting, hshown⟩ := exists_run_waiting hx hshow hl hq
    obtain ⟨after, z, hafter, hanswer, hleft⟩ :=
      exists_run_askMirror (hx.run hrun) (hs.run hx hrun) hshown hwaiting
    exact ⟨before ++ after, z, Run.append_eq_some_iff.mpr ⟨y, hrun, hafter⟩, hanswer, hleft⟩

end Mirroring

end Stencil.Cluster
