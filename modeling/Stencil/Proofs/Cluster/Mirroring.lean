import Mathlib.Data.List.Basic
import Stencil.Cluster.Mirroring
import Stencil.Proofs.Run

set_option autoImplicit false
set_option relaxedAutoImplicit false

/-!
What questions are answered that are asked at the same time of a client that keeps mirrors, in whatever order they, the
mirrors and the stop move.

The moves are taken apart once, into a relation with a constructor for each way in which an event is possible. The cell
of a kind never changes, is busy as long as a question waits for the mirror that it started, and never changes once it
is filled.
-/

namespace Stencil.Cluster

open Stencil.Label

def Asking.cell? : Asking → Option Nat
  | .waiting _ c | .syncing _ c _ => some c
  | _ => none

def Asking.mirror? : Asking → Option Nat
  | .syncing _ _ m | .holding _ m => some m
  | .answered m? _ => m?
  | _ => none

/-- The number of the mirror from which the answer is, or will be. -/
def Asking.source? : Asking → Option Nat
  | .holding _ m => some m
  | .answered m? (.ok _) => m?
  | _ => none

def Asking.answer? : Asking → Option (Except Failure ObjectList)
  | .answered _ a => some a
  | _ => none

def Asking.rest : Asking → Nat
  | .reading => 5
  | .searching _ => 4
  | .waiting _ _ => 3
  | .syncing _ _ _ => 2
  | .holding _ _ => 1
  | .answered _ _ => 0

/-- What is known of a question's selector and of its failure. -/
def Listing.IsFaithful (l : Listing) : Prop :=
  match l.stage with
  | .reading => True
  | .searching s | .waiting s _ | .syncing s _ _ | .holding s _ => l.query.parseSelector = .ok s
  | .answered none a => ∃ f, l.query.parseSelector = .error f ∧ a = .error f
  | .answered (some _) a => (∃ s, l.query.parseSelector = .ok s) ∧ ∀ f, a = .error f → f = .syncFailed l.query.kind

/-- The number of the question for which the event is a move. -/
def MirroringEvent.listing? : MirroringEvent → Option Nat
  | .reads t | .enters t | .starts t | .readies t | .givesUp t | .finds t | .answers t => some t
  | _ => none

namespace Mirroring

variable {x y z : Mirroring} {e : MirroringEvent} {events : List MirroringEvent}

/-- The question with a number has got an answer, from the mirror of that number if it is a list. -/
def HasAnswered (x : Mirroring) (t : Nat) (q : Query) (m : Nat) (answer : Except Failure ObjectList) : Prop :=
  x.listings[t]? = some ⟨q, .answered (some m) answer⟩

/-! ### The moves -/

/-- The moves, one constructor for each way in which an event is possible. -/
inductive Move (x : Mirroring) : MirroringEvent → Mirroring → Prop
  | rejects {t : Nat} {q : Query} {f : Failure} : x.listings[t]? = some ⟨q, .reading⟩ → q.parseSelector = .error f →
      Move x (.reads t) { x with listings := x.listings.set t ⟨q, .answered none (.error f)⟩ }
  | reads {t : Nat} {q : Query} {s : Selector} : x.listings[t]? = some ⟨q, .reading⟩ → q.parseSelector = .ok s →
      Move x (.reads t) { x with listings := x.listings.set t ⟨q, .searching s⟩ }
  | entersFound {t c : Nat} {q : Query} {s : Selector} : x.listings[t]? = some ⟨q, .searching s⟩ →
      x.table.lookup q.kind = some c →
      Move x (.enters t) { x with listings := x.listings.set t ⟨q, .waiting s c⟩ }
  | entersNew {t : Nat} {q : Query} {s : Selector} : x.listings[t]? = some ⟨q, .searching s⟩ →
      x.table.lookup q.kind = none →
      Move x (.enters t) { x with
        listings := x.listings.set t ⟨q, .waiting s x.cells.length⟩
        cells := x.cells ++ [.idle]
        table := (q.kind, x.cells.length) :: x.table }
  | starts {t c : Nat} {q : Query} {s : Selector} : x.listings[t]? = some ⟨q, .waiting s c⟩ →
      x.cells[c]? = some .idle →
      Move x (.starts t) { x with
        listings := x.listings.set t ⟨q, .syncing s c x.mirrors.length⟩
        cells := x.cells.set c .busy
        mirrors := x.mirrors ++ [⟨q.kind, .starting, false⟩] }
  | readies {t c m : Nat} {q : Query} {s : Selector} {r : Replica} : x.listings[t]? = some ⟨q, .syncing s c m⟩ →
      x.mirrors[m]? = some r → r.isReady = true →
      Move x (.readies t) { x with
        listings := x.listings.set t ⟨q, .holding s m⟩
        cells := x.cells.set c (.filled m) }
  | givesUp {t c m : Nat} {q : Query} {s : Selector} : x.listings[t]? = some ⟨q, .syncing s c m⟩ →
      (x.stopped = true ∨ ∃ r, x.mirrors[m]? = some r ∧ r.ended = true ∧ r.isReady = false) →
      Move x (.givesUp t) { x with
        listings := x.listings.set t ⟨q, .answered (some m) (.error (.syncFailed q.kind))⟩
        cells := x.cells.set c .idle }
  | finds {t c m : Nat} {q : Query} {s : Selector} : x.listings[t]? = some ⟨q, .waiting s c⟩ →
      x.cells[c]? = some (.filled m) →
      Move x (.finds t) { x with listings := x.listings.set t ⟨q, .holding s m⟩ }
  | answers {t m : Nat} {q : Query} {s : Selector} {r : Replica} : x.listings[t]? = some ⟨q, .holding s m⟩ →
      x.mirrors[m]? = some r →
      Move x (.answers t) { x with
        listings := x.listings.set t
          ⟨q, .answered (some m) (.ok (Remote.fromMirror q s r.content.objects))⟩ }
  | lists {m : Nat} {r : Replica} (objects : List Object) : x.mirrors[m]? = some r → r.ended = false →
      Move x (.lists m objects) { x with mirrors := x.mirrors.set m { r with content := .ofList objects } }
  | hears {m : Nat} {r : Replica} (c : Change) : x.mirrors[m]? = some r → r.ended = false →
      Move x (.hears m c) { x with mirrors := x.mirrors.set m { r with content := r.content.hear c } }
  | ends {m : Nat} {r : Replica} : x.mirrors[m]? = some r →
      Move x (.ends m) { x with mirrors := x.mirrors.set m { r with ended := true } }
  | stops : Move x .stops { x with stopped := true }

theorem move_of_step? (h : x.step? e = some y) : Move x e y := by
  cases e with
  | reads t =>
    rw [step?] at h
    split at h
    · next hl =>
      split at h <;> cases h
      · next hf => exact .rejects hl hf
      · next hs => exact .reads hl hs
    · cases h
  | enters t =>
    rw [step?] at h
    split at h
    · next q s hl =>
      rw [enter] at h
      cases hc : x.table.lookup q.kind with
      | some c =>
        rw [hc] at h
        cases h
        exact .entersFound hl hc
      | none =>
        rw [hc] at h
        cases h
        exact .entersNew hl hc
    · cases h
  | starts t =>
    rw [step?] at h
    split at h
    · next hl =>
      split at h <;> cases h
      next hc => exact .starts hl hc
    · cases h
  | readies t =>
    rw [step?] at h
    split at h
    · next hl =>
      split at h <;> cases h
      next hready =>
      obtain ⟨r, hr, hready⟩ := by simpa [Option.any_eq_true] using hready
      exact .readies hl hr hready
    · cases h
  | givesUp t =>
    rw [step?] at h
    split at h
    · next hl =>
      split at h <;> cases h
      next hgone => exact .givesUp hl (by simpa [Option.any_eq_true] using hgone)
    · cases h
  | finds t =>
    rw [step?] at h
    split at h
    · next hl =>
      split at h <;> cases h
      next hc => exact .finds hl hc
    · cases h
  | answers t =>
    rw [step?] at h
    split at h
    · next hl =>
      obtain ⟨r, hr, rfl⟩ := Option.map_eq_some_iff.mp h
      exact .answers hl hr
    · cases h
  | lists m objects =>
    rw [step?] at h
    split at h <;> cases h
    next hr => exact .lists objects hr rfl
  | hears m c =>
    rw [step?] at h
    split at h <;> cases h
    next hr => exact .hears c hr rfl
  | ends m =>
    rw [step?] at h
    obtain ⟨r, hr, rfl⟩ := Option.map_eq_some_iff.mp h
    exact .ends hr
  | stops =>
    cases h
    exact .stops

theorem step?_of_move (h : Move x e y) : x.step? e = some y := by
  cases h with
  | rejects hl hq | reads hl hq => simp only [step?, hl, hq]; rfl
  | entersFound hl hc | entersNew hl hc => simp only [step?, enter, advance, hl, hc]
  | starts hl hc | finds hl hc => simp only [step?, hl, hc]; rfl
  | readies hl hr hready => simp [step?, advance, setCell, hl, hr, hready]
  | givesUp hl hgone => simp [step?, advance, setCell, hl, Option.any_eq_true, hgone]
  | answers hl hr => simp only [step?, hl, hr]; rfl
  | @lists m r objects hr he => obtain ⟨kind, content, ended⟩ := r; subst he; simp only [step?, hr]; rfl
  | @hears m r c hr he => obtain ⟨kind, content, ended⟩ := r; subst he; simp only [step?, hr]; rfl
  | ends hr => simp only [step?, hr]; rfl
  | stops => rfl

theorem step?_eq_some : x.step? e = some y ↔ Move x e y := ⟨move_of_step?, step?_of_move⟩

theorem getElem?_concat_eq_some_iff {α : Type} {l : List α} {a b : α} {i : Nat} :
    (l ++ [a])[i]? = some b ↔ l[i]? = some b ∨ i = l.length ∧ a = b := by
  rw [List.getElem?_append]
  split
  · next hlt => simp [Nat.ne_of_lt hlt]
  · next hge =>
    rw [List.getElem?_eq_none (Nat.not_lt.mp hge), List.getElem?_singleton]
    grind

namespace Move

/-- A question stays the same, and a mirror once it has one. Each move for it is one less that is left. -/
theorem exists_listing (h : Move x e y) {t : Nat} {l : Listing} (hl : x.listings[t]? = some l) :
    ∃ k, y.listings[t]? = some k ∧ k.query = l.query ∧ (∀ m, l.stage.mirror? = some m → k.stage.mirror? = some m) ∧
      k.stage.rest + (if e.listing? = some t then 1 else 0) ≤ l.stage.rest := by
  cases h <;> grind [Asking.mirror?, Asking.rest, MirroringEvent.listing?]

theorem lookup_table (h : Move x e y) {k : Kind} {c : Nat} (hc : x.table.lookup k = some c) :
    y.table.lookup k = some c := by
  cases h <;> grind

theorem exists_mirror (h : Move x e y) {m : Nat} {r : Replica} (hr : x.mirrors[m]? = some r) :
    ∃ r', y.mirrors[m]? = some r' ∧ r'.kind = r.kind ∧ (r.isReady = true → r'.isReady = true) := by
  cases h <;> grind [Replica.isReady]

theorem had_mirror (h : Move x e y) {m : Nat} {r : Replica} (hr : y.mirrors[m]? = some r) :
    (∃ r', x.mirrors[m]? = some r' ∧ r'.kind = r.kind) ∨
      ∃ (t c : Nat) (q : Query) (s : Selector), y.listings[t]? = some ⟨q, .syncing s c m⟩ ∧ q.kind = r.kind := by
  cases h with
  | @starts t c q s hl hidle =>
    rcases getElem?_concat_eq_some_iff.mp hr with hr | ⟨rfl, rfl⟩
    · exact .inl ⟨r, hr, rfl⟩
    · exact .inr ⟨t, c, q, s, List.getElem?_set_self (List.getElem?_eq_some_iff.mp hl).1, rfl⟩
  | _ => exact .inl (by grind)

theorem ready (h : Move x e y) {m : Nat} {r : Replica} (hr : y.mirrors[m]? = some r) (hready : r.isReady = true) :
    (∃ r', x.mirrors[m]? = some r' ∧ r'.isReady = true) ∨ ∃ objects, e = .lists m objects := by
  cases h with
  | @lists n r' objects hr' hlistens =>
    by_cases hne : n = m
    · exact .inr ⟨objects, hne ▸ rfl⟩
    · rw [List.getElem?_set_ne hne] at hr
      exact .inl ⟨r, hr, hready⟩
  | starts hl hidle =>
    rcases getElem?_concat_eq_some_iff.mp hr with hr | ⟨-, rfl⟩
    · exact .inl ⟨r, hr, hready⟩
    · cases hready
  | _ => exact .inl (by grind [Replica.isReady])

theorem busy (h : Move x e y) {c : Nat} (hc : y.cells[c]? = some .busy) :
    x.cells[c]? = some .busy ∨
      ∃ (t m : Nat) (q : Query) (s : Selector), y.listings[t]? = some ⟨q, .syncing s c m⟩ := by
  cases h with
  | @starts t c' q s hl hidle =>
    by_cases hne : c' = c
    · exact .inr ⟨t, x.mirrors.length, q, s, hne ▸ List.getElem?_set_self (List.getElem?_eq_some_iff.mp hl).1⟩
    · exact .inl (by simpa [List.getElem?_set_ne hne] using hc)
  | _ => exact .inl (by grind)

theorem was_syncing (h : Move x e y) {t c m : Nat} {q : Query} {s : Selector}
    (hl : y.listings[t]? = some ⟨q, .syncing s c m⟩) :
    x.listings[t]? = some ⟨q, .syncing s c m⟩ ∨ y.mirrors[m]? = some ⟨q.kind, .starting, false⟩ := by
  cases h <;> grind

theorem syncing (h : Move x e y) {t c m : Nat} {q : Query} {s : Selector}
    (hl : x.listings[t]? = some ⟨q, .syncing s c m⟩) (hc : y.cells[c]? = some .busy) :
    y.listings[t]? = some ⟨q, .syncing s c m⟩ := by
  cases h <;> grind

theorem answered (h : Move x e y) {t : Nat} {q : Query} {m? : Option Nat} {a : Except Failure ObjectList}
    (hl : x.listings[t]? = some ⟨q, .answered m? a⟩) : y.listings[t]? = some ⟨q, .answered m? a⟩ := by
  cases h <;> grind

theorem had_answered (h : Move x e y) {t m : Nat} {q : Query} {l : ObjectList} (ha : y.HasAnswered t q m (.ok l)) :
    x.HasAnswered t q m (.ok l) ∨ e = .answers t ∧ ∃ s r, x.listings[t]? = some ⟨q, .holding s m⟩ ∧
      x.mirrors[m]? = some r ∧ l = Remote.fromMirror q s r.content.objects := by
  cases h <;> grind [HasAnswered]

theorem stopped (h : Move x e y) (hx : x.stopped = true) : y.stopped = true := by
  cases h <;> first | rfl | exact hx

end Move

/-! ### How questions and cells stand to each other -/

structure Consistent (x : Mirroring) : Prop where
  tabled : ∀ (k : Kind) (c : Nat), x.table.lookup k = some c → c < x.cells.length
  apart : ∀ (k l : Kind) (c : Nat), x.table.lookup k = some c → x.table.lookup l = some c → k = l
  held : ∀ (t c : Nat) (l : Listing), x.listings[t]? = some l → l.stage.cell? = some c →
    x.table.lookup l.query.kind = some c
  owned : ∀ c : Nat, x.cells[c]? = some .busy →
    ∃ (t m : Nat) (q : Query) (s : Selector), x.listings[t]? = some ⟨q, .syncing s c m⟩
  busy : ∀ (t c m : Nat) (q : Query) (s : Selector), x.listings[t]? = some ⟨q, .syncing s c m⟩ →
    x.cells[c]? = some .busy
  alone : ∀ (t u c m n : Nat) (q r : Query) (s s' : Selector), x.listings[t]? = some ⟨q, .syncing s c m⟩ →
    x.listings[u]? = some ⟨r, .syncing s' c n⟩ → t = u

theorem consistent_start (queries : List Query) : (start queries).Consistent := by
  constructor <;> grind [start, Asking.cell?]

theorem Move.consistent (h : Move x e y) (hx : x.Consistent) : y.Consistent := by
  refine ⟨?_, ?_, ?_, fun c hc => ?owned, ?_, ?_⟩
  case owned =>
    rcases h.busy hc with hbusy | howned
    · obtain ⟨t, m, q, s, hl⟩ := hx.owned c hbusy
      exact ⟨t, m, q, s, h.syncing hl hc⟩
    · exact howned
  -- who starts a mirror finds the cell idle, and the cell of one who waits for a mirror is busy
  all_goals
    obtain ⟨tabled, apart, held, -, busy, alone⟩ := hx
    cases h <;> grind [Asking.cell?]

theorem Move.filled (h : Move x e y) (hx : x.Consistent) {c m : Nat} (hc : x.cells[c]? = some (.filled m)) :
    y.cells[c]? = some (.filled m) := by
  have busy := hx.busy
  cases h <;> grind

/-- A question that waits for its mirror goes on to do so, fills its cell with it, or is answered that it failed. -/
theorem Move.of_syncing (h : Move x e y) (hx : x.Consistent) {t c m : Nat} {q : Query} {s : Selector}
    (hl : x.listings[t]? = some ⟨q, .syncing s c m⟩) :
    y.listings[t]? = some ⟨q, .syncing s c m⟩ ∨ y.cells[c]? = some (.filled m) ∨
      y.HasAnswered t q m (.error (.syncFailed q.kind)) := by
  have busy := hx.busy t c m q s hl
  cases h <;> grind [HasAnswered]

/-! ### What mirrors are there, and who is answered from them -/

/-- The cell of a kind is filled with the mirror of that number. -/
def IsKept (x : Mirroring) (k : Kind) (m : Nat) : Prop :=
  ∃ c, x.table.lookup k = some c ∧ x.cells[c]? = some (.filled m)

theorem IsKept.eq {k : Kind} {m n : Nat} (h : x.IsKept k m) (h' : x.IsKept k n) : m = n := by
  obtain ⟨c, hc, hm⟩ := h
  obtain ⟨c', hc', hn⟩ := h'
  obtain rfl : c = c' := Option.some.inj (hc.symm.trans hc')
  exact MirrorCell.filled.inj (Option.some.inj (hm.symm.trans hn))

theorem Move.isKept (h : Move x e y) (hx : x.Consistent) {k : Kind} {m : Nat} (hk : x.IsKept k m) : y.IsKept k m := by
  obtain ⟨c, hc, hm⟩ := hk
  exact ⟨c, h.lookup_table hc, h.filled hx hm⟩

/-- What mirrors there are at any time: each waits for its first list, is the one of its kind, or has failed; and what
is answered from one is answered from that of the kind, which holds a list. -/
structure Supplied (x : Mirroring) : Prop where
  begun : ∀ (t c m : Nat) (q : Query) (s : Selector), x.listings[t]? = some ⟨q, .syncing s c m⟩ →
    ∃ r, x.mirrors[m]? = some r ∧ r.kind = q.kind
  kept : ∀ (k : Kind) (m : Nat), x.IsKept k m → ∃ r, x.mirrors[m]? = some r ∧ r.kind = k ∧ r.isReady = true
  given : ∀ (t m : Nat) (l : Listing), x.listings[t]? = some l → l.stage.source? = some m → x.IsKept l.query.kind m
  started : ∀ (m : Nat) (r : Replica), x.mirrors[m]? = some r →
    (∃ (t c : Nat) (q : Query) (s : Selector), x.listings[t]? = some ⟨q, .syncing s c m⟩ ∧ q.kind = r.kind) ∨
      x.IsKept r.kind m ∨ ∃ t q, q.kind = r.kind ∧ x.HasAnswered t q m (.error (.syncFailed q.kind))

theorem supplied_start (queries : List Query) : (start queries).Supplied := by
  constructor <;> grind [start, IsKept, Asking.source?]

/-- What is answered from a mirror has been, or the cell that the question had is filled with the mirror. -/
theorem Move.had_source (h : Move x e y) (hx : x.Consistent) {t m : Nat} {l : Listing} (hl : y.listings[t]? = some l)
    (hm : l.stage.source? = some m) :
    ∃ k, x.listings[t]? = some k ∧ k.query = l.query ∧
      (k.stage.source? = some m ∨ ∃ c, k.stage.cell? = some c ∧ y.cells[c]? = some (.filled m)) := by
  have busy := hx.busy
  cases h <;> grind [Asking.source?, Asking.cell?]

/-- The mirror of a kind has been that, or a question that waited for it finds that it holds its first list. -/
theorem Move.had_kept (h : Move x e y) (hx : x.Consistent) {k : Kind} {m : Nat} (hk : y.IsKept k m) :
    x.IsKept k m ∨ ∃ (t c : Nat) (q : Query) (s : Selector) (r : Replica),
      x.listings[t]? = some ⟨q, .syncing s c m⟩ ∧ q.kind = k ∧ x.mirrors[m]? = some r ∧ r.isReady = true := by
  obtain ⟨c, hc, hm⟩ := hk
  cases h with
  | @readies t c' n q s r hl hr hready =>
    by_cases hne : c' = c
    · subst hne
      have hkind := hx.apart q.kind k c' (hx.held t c' _ hl rfl) hc
      rw [List.getElem?_set_self (hx.tabled k c' hc)] at hm
      cases hm
      exact .inr ⟨t, c', q, s, r, hl, hkind, hr, hready⟩
    · rw [List.getElem?_set_ne hne] at hm
      exact .inl ⟨c, hc, hm⟩
  | _ => exact .inl ⟨c, by grind, by grind⟩

theorem Move.supplied (h : Move x e y) (hx : x.Consistent) (hs : x.Supplied) : y.Supplied := by
  refine ⟨fun t c m q s hl => ?begun, fun k m hk => ?kept, fun t m l hl hm => ?given, fun m r hr => ?started⟩
  case begun =>
    rcases h.was_syncing hl with hold | hnew
    · obtain ⟨r, hr, hkind⟩ := hs.begun t c m q s hold
      obtain ⟨r', hr', hsame, -⟩ := h.exists_mirror hr
      exact ⟨r', hr', hsame.trans hkind⟩
    · exact ⟨_, hnew, rfl⟩
  case kept =>
    -- a cell is filled only with a mirror that holds its first list, and no mirror loses that
    rcases h.had_kept hx hk with hold | ⟨t, c, q, s, r, hl, rfl, hr, hready⟩
    · obtain ⟨r, hr, hkind, hready⟩ := hs.kept k m hold
      obtain ⟨r', hr', hkind', hready'⟩ := h.exists_mirror hr
      exact ⟨r', hr', hkind'.trans hkind, hready' hready⟩
    · obtain ⟨r', hr', hkind'⟩ := hs.begun t c m q s hl
      obtain rfl : r = r' := Option.some.inj (hr.symm.trans hr')
      obtain ⟨r', hr', hsame, hready'⟩ := h.exists_mirror hr
      exact ⟨r', hr', hsame.trans hkind', hready' hready⟩
  case given =>
    -- a cell that was found filled is the one of the kind of the question
    obtain ⟨k, hk, hquery, hsource | ⟨c, hc, hfilled⟩⟩ := h.had_source hx hl hm
    · exact hquery ▸ h.isKept hx (hs.given t m k hk hsource)
    · exact hquery ▸ ⟨c, h.lookup_table (hx.held t c k hk hc), hfilled⟩
  case started =>
    -- a mirror that a question waits for is kept when the question finds it ready, and has failed when it gives up
    rcases h.had_mirror hr with ⟨r', hr', hkind⟩ | hnew
    · rw [← hkind]
      rcases hs.started m r' hr' with ⟨t, c, q, s, hl, hq⟩ | hkept | ⟨t, q, hq, hfailed⟩
      · rcases h.of_syncing hx hl with hstill | hfilled | hfailed
        · exact .inl ⟨t, c, q, s, hstill, hq⟩
        · exact .inr (.inl ⟨c, h.lookup_table (hq ▸ hx.held t c _ hl rfl), hfilled⟩)
        · exact .inr (.inr ⟨t, q, hq, hfailed⟩)
      · exact .inr (.inl (h.isKept hx hkept))
      · exact .inr (.inr ⟨t, q, hq, h.answered hfailed⟩)
    · exact .inl hnew

/-! ### What is answered -/

def Faithful (x : Mirroring) : Prop := ∀ (t : Nat) (l : Listing), x.listings[t]? = some l → l.IsFaithful

theorem faithful_start (queries : List Query) : (start queries).Faithful := by
  intro t l hl
  obtain ⟨q, -, rfl⟩ := List.mem_map.mp (List.mem_of_getElem? hl)
  trivial

theorem Move.faithful (h : Move x e y) (hx : x.Faithful) : y.Faithful := by
  intro t l hl
  have hx' := hx t
  cases h <;> grind [Listing.IsFaithful]

/-! ### Runs -/

variable {queries : List Query}

theorem run_induction {motive : List MirroringEvent → Mirroring → Prop} (hstart : motive [] x)
    (hmove : ∀ {events e y z}, x.run? events = some y → Move y e z → motive events y → motive (events ++ [e]) z)
    (h : x.run? events = some y) : motive events y :=
  Run.induction hstart (fun hrun hstep => hmove hrun (step?_eq_some.mp hstep)) h

theorem Consistent.run (hx : x.Consistent) (h : x.run? events = some y) : y.Consistent :=
  run_induction hx (fun _ hm hy => hm.consistent hy) h

theorem Supplied.run (hx : x.Consistent) (hs : x.Supplied) (h : x.run? events = some y) : y.Supplied :=
  run_induction hs (fun hrun hm hy => hm.supplied (hx.run hrun) hy) h

theorem Faithful.run (hx : x.Faithful) (h : x.run? events = some y) : y.Faithful :=
  run_induction hx (fun _ hm hy => hm.faithful hy) h

theorem consistent_run (h : (start queries).run? events = some x) : x.Consistent := (consistent_start queries).run h

theorem supplied_run (h : (start queries).run? events = some x) : x.Supplied :=
  (supplied_start queries).run (consistent_start queries) h

theorem faithful_run (h : (start queries).run? events = some x) : x.Faithful := (faithful_start queries).run h

theorem exists_listing_run (h : x.run? events = some y) {t : Nat} {l : Listing} (hl : x.listings[t]? = some l) :
    ∃ k, y.listings[t]? = some k ∧ k.query = l.query ∧ (∀ m, l.stage.mirror? = some m → k.stage.mirror? = some m) ∧
      k.stage.rest + events.countP (fun e => e.listing? = some t) ≤ l.stage.rest := by
  refine run_induction (motive := fun events y => ∃ k, y.listings[t]? = some k ∧ k.query = l.query ∧
    (∀ m, l.stage.mirror? = some m → k.stage.mirror? = some m) ∧
      k.stage.rest + events.countP (fun e => e.listing? = some t) ≤ l.stage.rest)
    ⟨l, hl, rfl, fun _ hm => hm, Nat.le_refl _⟩ ?_ h
  rintro events e y z - hm ⟨k, hk, hquery, hmirror, hrest⟩
  obtain ⟨k', hk', hquery', hmirror', hrest'⟩ := hm.exists_listing hk
  refine ⟨k', hk', hquery'.trans hquery, fun m hm => hmirror' m (hmirror m hm), ?_⟩
  simp only [List.countP_append, List.countP_singleton, decide_eq_true_eq]
  omega

theorem exists_lists_of_isReady (h : (start queries).run? events = some x) {m : Nat} {r : Replica}
    (hr : x.mirrors[m]? = some r) (hready : r.isReady = true) : ∃ objects, .lists m objects ∈ events := by
  refine run_induction (motive := fun events x => ∀ r, x.mirrors[m]? = some r → r.isReady = true →
    ∃ objects, .lists m objects ∈ events) ?_ ?_ h r hr hready
  · intro r hr
    cases hr
  · intro events e y z _ hm hy r hr hready
    rcases hm.ready hr hready with ⟨r', hr', hready'⟩ | ⟨objects, rfl⟩
    · obtain ⟨objects, hmem⟩ := hy r' hr' hready'
      exact ⟨objects, List.mem_append_left [e] hmem⟩
    · exact ⟨objects, List.mem_append_right events List.mem_cons_self⟩

/-- A list that is the answer to a question was selected from what its mirror showed when the question was answered. -/
theorem exists_answers (h : (start queries).run? events = some x) {t m : Nat} {q : Query} {l : ObjectList}
    (ha : x.HasAnswered t q m (.ok l)) : ∃ before after y s r, events = before ++ .answers t :: after ∧
      (start queries).run? before = some y ∧ y.listings[t]? = some ⟨q, .holding s m⟩ ∧ y.mirrors[m]? = some r ∧
      l = Remote.fromMirror q s r.content.objects := by
  refine run_induction (motive := fun events x => x.HasAnswered t q m (.ok l) → ∃ before after y s r,
    events = before ++ .answers t :: after ∧ (start queries).run? before = some y ∧
      y.listings[t]? = some ⟨q, .holding s m⟩ ∧ y.mirrors[m]? = some r ∧
      l = Remote.fromMirror q s r.content.objects) ?_ ?_ h ha
  · grind [start, HasAnswered]
  · intro events e y z hrun hm hy ha
    rcases hm.had_answered ha with hold | ⟨rfl, s, r, hl, hr, hlist⟩
    · obtain ⟨before, after, y', s, r, rfl, hfacts⟩ := hy hold
      exact ⟨before, after ++ [e], y', s, r, by simp, hfacts⟩
    · exact ⟨events, [], y, s, r, rfl, hrun, hl, hr, hlist⟩

/-! ### Once the client was told to stop -/

def CanMove (x : Mirroring) (k : Kind) : Prop :=
  ∃ e t l y, e.listing? = some t ∧ x.listings[t]? = some l ∧ l.query.kind = k ∧ x.step? e = some y

/-- A client that was told to stop leaves no question unanswered as long as the questions for its kind move. -/
theorem canMove_of_stopped (hx : x.Consistent) (hs : x.Supplied) (hstop : x.stopped = true) {t : Nat} {l : Listing}
    (hl : x.listings[t]? = some l) (hnone : l.stage.answer? = none) : x.CanMove l.query.kind := by
  have hmove {u : Nat} {k : Listing} {e : MirroringEvent} {y : Mirroring} (hk : x.listings[u]? = some k)
      (hkind : k.query.kind = l.query.kind) (he : e.listing? = some u) (hm : Move x e y) : x.CanMove l.query.kind :=
    ⟨e, u, k, y, he, hk, hkind, step?_of_move hm⟩
  obtain ⟨q, stage⟩ := l
  cases stage with
  | reading =>
    cases hq : q.parseSelector with
    | error f => exact hmove hl rfl rfl (.rejects hl hq)
    | ok s => exact hmove hl rfl rfl (.reads hl hq)
  | searching s =>
    cases hc : x.table.lookup q.kind with
    | none => exact hmove hl rfl rfl (.entersNew hl hc)
    | some c => exact hmove hl rfl rfl (.entersFound hl hc)
  | waiting s c =>
    have htable := hx.held t c _ hl rfl
    obtain ⟨cell, hcell⟩ : ∃ cell, x.cells[c]? = some cell := ⟨_, List.getElem?_eq_getElem (hx.tabled _ c htable)⟩
    cases cell with
    | idle => exact hmove hl rfl rfl (.starts hl hcell)
    | busy =>
      -- the question that keeps the cell busy gives up
      obtain ⟨u, m, r, s', hu⟩ := hx.owned c hcell
      exact hmove hu (hx.apart _ _ c (hx.held u c _ hu rfl) htable) rfl (.givesUp hu (.inl hstop))
    | filled m => exact hmove hl rfl rfl (.finds hl hcell)
  | syncing s c m => exact hmove hl rfl rfl (.givesUp hl (.inl hstop))
  | holding s m =>
    obtain ⟨r, hr, -⟩ := hs.kept q.kind m (hs.given t m _ hl rfl)
    exact hmove hl rfl rfl (.answers hl hr)
  | answered m? a => cases hnone

theorem stopped_run (h : x.run? events = some y) (hx : x.stopped = true) : y.stopped = true :=
  run_induction (motive := fun _ y => y.stopped = true) hx (fun _ hm hy => hm.stopped hy) h

/-! ### Main statements -/

/-- The list is what the question selects, by one of the events, from the objects of a mirror of its kind that has got
its first list by then. -/
def IsSelected (queries : List Query) (events : List MirroringEvent) (t : Nat) (q : Query) (m : Nat) (l : ObjectList) :
    Prop :=
  ∃ before after y s objects ended first, events = before ++ .answers t :: after ∧
    (start queries).run? before = some y ∧ y.mirrors[m]? = some ⟨q.kind, .synced objects, ended⟩ ∧
    .lists m first ∈ before ∧ q.parseSelector = .ok s ∧ l = Remote.fromMirror q s objects

theorem isSelected_of_hasAnswered (h : (start queries).run? events = some x) {t m : Nat} {q : Query} {l : ObjectList}
    (ha : x.HasAnswered t q m (.ok l)) : IsSelected queries events t q m l := by
  obtain ⟨before, after, y, s, r, hevents, hrun, hl, hr, hlist⟩ := exists_answers h ha
  have hs := supplied_run hrun
  obtain ⟨r', hr', hkind, hready⟩ := hs.kept q.kind m (hs.given t m _ hl rfl)
  obtain rfl : r = r' := Option.some.inj (hr.symm.trans hr')
  obtain ⟨first, hfirst⟩ := exists_lists_of_isReady hrun hr hready
  have hparse : q.parseSelector = .ok s := faithful_run hrun t _ hl
  obtain ⟨kind, content, ended⟩ := r
  cases content with
  | starting => cases hready
  | synced objects =>
    exact ⟨before, after, y, s, objects, ended, first, hevents, hrun, hkind ▸ hr, hfirst, hparse, hlist⟩

theorem eq_of_hasAnswered (h : (start queries).run? events = some x) {t u m n : Nat} {q r : Query} {l k : ObjectList}
    (ht : x.HasAnswered t q m (.ok l)) (hu : x.HasAnswered u r n (.ok k)) (hkind : q.kind = r.kind) : m = n := by
  have hs := supplied_run h
  have hm := hs.given t m _ ht rfl
  have hn := hs.given u n _ hu rfl
  exact hm.eq (hkind ▸ hn)

theorem failed_of_starts {before after : List MirroringEvent} {t : Nat}
    (h : (start queries).run? (before ++ .starts t :: after) = some x) :
    ∃ y l, (start queries).run? before = some y ∧ y.listings[t]? = some l ∧
      ∀ m r, y.mirrors[m]? = some r → r.kind = l.query.kind →
        ∃ u q, q.kind = r.kind ∧ y.HasAnswered u q m (.error (.syncFailed q.kind)) := by
  obtain ⟨y, z, hy, hstep, -⟩ := Run.exists_step_of_run h
  cases move_of_step? hstep with
  | @starts _ c q s hl hidle =>
    have hcons := consistent_run hy
    have htable := hcons.held t c _ hl rfl
    refine ⟨y, _, hy, hl, fun m r hr hkind => ?_⟩
    rcases (supplied_run hy).started m r hr with ⟨u, c', q', s', hu, hq'⟩ | ⟨c', hc', hfilled⟩ | hfailed
    · -- the cell of the kind would be busy
      have hc' := hcons.held u c' _ hu rfl
      rw [hq', hkind, htable] at hc'
      cases hc'
      rw [hcons.busy u c _ q' s' hu] at hidle
      cases hidle
    · -- the cell of the kind would be filled
      rw [hkind, htable] at hc'
      cases hc'
      rw [hidle] at hfilled
      cases hfilled
    · exact hfailed

/-- What becomes of a question: it is answered that its mirror failed, unless that has got a list, and as long as it is
not answered, the questions for its kind can move. -/
def IsReleased (events : List MirroringEvent) (x : Mirroring) (t : Nat) (l : Listing) : Prop :=
  ∃ k, x.listings[t]? = some k ∧ k.query = l.query ∧ (∀ m, l.stage.mirror? = some m → k.stage.mirror? = some m) ∧
    (k.stage.answer? = none → x.CanMove l.query.kind) ∧
    ∀ a, k.stage.answer? = some a → a = .error (.syncFailed l.query.kind) ∨
      ∃ m list first, k.stage.mirror? = some m ∧ a = .ok list ∧ .lists m first ∈ events

theorem isReleased_of_stops {before after : List MirroringEvent} {t : Nat} {l : Listing}
    (h : (start queries).run? (before ++ .stops :: after) = some x) (hy : (start queries).run? before = some y)
    (hl : y.listings[t]? = some l) (hwaits : l.stage.cell?.isSome = true) :
    IsReleased (before ++ .stops :: after) x t l := by
  obtain ⟨y', hy', hbehind⟩ := Run.append_eq_some_iff.mp h
  obtain rfl : y = y' := Option.some.inj (hy.symm.trans hy')
  have hafter : run? { y with stopped := true } after = some x := hbehind
  obtain ⟨k, hk, hquery, hmirror, -⟩ := exists_listing_run hbehind hl
  have hs := supplied_run h
  refine ⟨k, hk, hquery, hmirror, fun hnone => ?moves, fun a ha => ?answer⟩
  case moves =>
    rw [← hquery]
    exact canMove_of_stopped (consistent_run h) hs (stopped_run hafter rfl) hk hnone
  case answer =>
    obtain ⟨s, hparse⟩ : ∃ s, l.query.parseSelector = .ok s := by
      obtain ⟨q, stage⟩ := l
      cases stage with
      | waiting s c | syncing s c m => exact ⟨s, faithful_run hy t _ hl⟩
      | _ => cases hwaits
    obtain ⟨q, stage⟩ := k
    obtain rfl : q = l.query := hquery
    cases stage with
    | answered m? b =>
      cases ha
      cases m? with
      | none =>
        obtain ⟨f, hf, -⟩ := faithful_run h t _ hk
        rw [hparse] at hf
        cases hf
      | some m =>
        cases a with
        | error f => exact .inl (congrArg Except.error ((faithful_run h t _ hk).2 f rfl))
        | ok list =>
          have hkept := hs.given t m ⟨l.query, .answered (some m) (.ok list)⟩ hk rfl
          obtain ⟨r, hr, -, hready⟩ := hs.kept l.query.kind m hkept
          obtain ⟨first, hfirst⟩ := exists_lists_of_isReady h hr hready
          exact .inr ⟨m, list, first, rfl, rfl, hfirst⟩
    | _ => cases ha

theorem exists_listing_of_question (h : (start queries).run? events = some x) {t : Nat} {q : Query}
    (hq : queries[t]? = some q) :
    ∃ stage, x.listings[t]? = some ⟨q, stage⟩ ∧ stage.rest + events.countP (fun e => e.listing? = some t) ≤ 5 := by
  have hl : (start queries).listings[t]? = some ⟨q, .reading⟩ := by simp [start, hq]
  obtain ⟨k, hk, rfl, -, hrest⟩ := exists_listing_run h hl
  exact ⟨k.stage, hk, hrest⟩

/-- A question with a selector that is none never starts a mirror, and can only be answered that it is none. -/
theorem rejected_of_parse (h : (start queries).run? events = some x) {t : Nat} {q : Query} {e : SelectorError}
    (hq : queries[t]? = some q) (he : Selector.parse q.selector = .error e) :
    .starts t ∉ events ∧ ∃ stage, x.listings[t]? = some ⟨q, stage⟩ ∧
      ∀ a, stage.answer? = some a → a = .error (.invalidSelector q.selector e) := by
  have hparse : q.parseSelector = .error (.invalidSelector q.selector e) := by
    rw [Query.parseSelector, he]
    rfl
  refine ⟨fun hstarts => ?never, ?answer⟩
  case never =>
    obtain ⟨before, after, rfl⟩ := List.append_of_mem hstarts
    obtain ⟨y, z, hy, hstep, -⟩ := Run.exists_step_of_run h
    obtain ⟨stage, hl, -⟩ := exists_listing_of_question hy hq
    cases move_of_step? hstep with
    | starts hwaiting hidle =>
      have hok := faithful_run hy t _ hwaiting
      rw [hl] at hwaiting
      cases hwaiting
      cases hparse.symm.trans hok
  case answer =>
    obtain ⟨stage, hl, -⟩ := exists_listing_of_question h hq
    refine ⟨stage, hl, fun a ha => ?_⟩
    have hfaithful := faithful_run h t _ hl
    cases stage with
    | answered m? b =>
      cases ha
      cases m? with
      | none =>
        obtain ⟨f, hf, rfl⟩ := hfaithful
        cases hparse.symm.trans hf
        rfl
      | some m =>
        obtain ⟨s, hs⟩ := hfaithful.1
        cases hparse.symm.trans hs
    | _ => cases ha

/-- However any number of questions, mirrors and a stop interleave. A list is what the question selects from the objects
that a mirror of its kind holds, which has got its first list by then. Lists of one kind are from one mirror. When a
mirror is started, all those of its kind have failed. A question that waits when the client is told to stop is answered
that its mirror failed, unless that has got a list; as long as it is not answered, the questions for its kind can move,
and at most five moves are made for each. A question with a selector that is none never starts a mirror, and can only
be answered that it is none. -/
theorem questions_share_ready_mirrors (h : (start queries).run? events = some x) :
    (∀ t m q l, x.HasAnswered t q m (.ok l) → IsSelected queries events t q m l) ∧
    (∀ t u m n q r l k, x.HasAnswered t q m (.ok l) → x.HasAnswered u r n (.ok k) → q.kind = r.kind → m = n) ∧
    (∀ before after t, events = before ++ .starts t :: after → ∃ y l, (start queries).run? before = some y ∧
      y.listings[t]? = some l ∧ ∀ m r, y.mirrors[m]? = some r → r.kind = l.query.kind →
        ∃ u q, q.kind = r.kind ∧ y.HasAnswered u q m (.error (.syncFailed q.kind))) ∧
    (∀ before after y t l, events = before ++ .stops :: after → (start queries).run? before = some y →
      y.listings[t]? = some l → l.stage.cell?.isSome = true → IsReleased events x t l) ∧
    (∀ t q, queries[t]? = some q → ∃ stage, x.listings[t]? = some ⟨q, stage⟩ ∧
      stage.rest + events.countP (fun e => e.listing? = some t) ≤ 5) ∧
    (∀ t q e, queries[t]? = some q → Selector.parse q.selector = .error e → .starts t ∉ events ∧
      ∃ stage, x.listings[t]? = some ⟨q, stage⟩ ∧
        ∀ a, stage.answer? = some a → a = .error (.invalidSelector q.selector e)) := by
  refine ⟨fun t m q l => isSelected_of_hasAnswered h, fun t u m n q r l k => eq_of_hasAnswered h, ?_, ?_,
    fun t q => exists_listing_of_question h, fun t q e => rejected_of_parse h⟩
  · rintro before after t rfl
    exact failed_of_starts h
  · rintro before after y t l rfl
    exact isReleased_of_stops h

def podQuestions : List Query := [⟨.pods, some "", ""⟩, ⟨.pods, some "default", ""⟩, ⟨.pods, some "", "a("⟩]

def podQuestionsRead (f : Failure) : Mirroring :=
  ⟨[⟨⟨.pods, some "", ""⟩, .searching ⟨"", []⟩⟩, ⟨⟨.pods, some "default", ""⟩, .searching ⟨"", []⟩⟩,
    ⟨⟨.pods, some "", "a("⟩, .answered none (.error f)⟩], [], [], [], false⟩

/-- The mirror that the first question starts ends, and the second one starts another, which gets its list before the
client is told to stop. -/
def secondMirrorLists : List MirroringEvent := [
  .enters 0, .starts 0, .enters 1, .ends 0, .givesUp 0, .starts 1, .lists 1 [], .readies 1, .stops, .answers 1]

theorem second_question_answered_from_second_mirror :
    ∃ x l, (start podQuestions).run? ([.reads 0, .reads 1, .reads 2] ++ secondMirrorLists) = some x ∧
      x.HasAnswered 0 ⟨.pods, some "", ""⟩ 0 (.error (.syncFailed .pods)) ∧
      x.HasAnswered 1 ⟨.pods, some "default", ""⟩ 1 (.ok l) ∧
      IsSelected podQuestions ([.reads 0, .reads 1, .reads 2] ++ secondMirrorLists) 1 ⟨.pods, some "default", ""⟩ 1 l ∧
      .starts 2 ∉ [.reads 0, .reads 1, .reads 2] ++ secondMirrorLists := by
  have hempty (ns? : Option String) : (⟨.pods, ns?, ""⟩ : Query).parseSelector = .ok ⟨"", []⟩ := by
    with_unfolding_all rfl
  obtain ⟨e, he⟩ : ∃ e, Selector.parse "a(" = .error e := ⟨_, by with_unfolding_all rfl⟩
  have hbad : (⟨.pods, some "", "a("⟩ : Query).parseSelector = .error (.invalidSelector "a(" e) := by
    rw [Query.parseSelector, he]
    rfl
  have hread : (start podQuestions).run? [.reads 0, .reads 1, .reads 2] =
      some (podQuestionsRead (.invalidSelector "a(" e)) := by
    simp [podQuestionsRead, podQuestions, run?, start, step?, advance, hempty, hbad]
  obtain ⟨x, hlists, hfailed, l, hanswered⟩ :
      ∃ x, (podQuestionsRead (.invalidSelector "a(" e)).run? secondMirrorLists = some x ∧
        x.HasAnswered 0 ⟨.pods, some "", ""⟩ 0 (.error (.syncFailed .pods)) ∧
        ∃ l, x.HasAnswered 1 ⟨.pods, some "default", ""⟩ 1 (.ok l) := ⟨_, rfl, rfl, _, rfl⟩
  have hrun : (start podQuestions).run? ([.reads 0, .reads 1, .reads 2] ++ secondMirrorLists) = some x :=
    Run.append_eq_some_iff.mpr ⟨_, hread, hlists⟩
  obtain ⟨hselected, -, -, -, -, hrejected⟩ := questions_share_ready_mirrors hrun
  exact ⟨x, l, hrun, hfailed, hanswered, hselected 1 1 _ l hanswered, (hrejected 2 _ e rfl he).1⟩

end Mirroring

end Stencil.Cluster
