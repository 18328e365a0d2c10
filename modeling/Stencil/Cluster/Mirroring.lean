import Stencil.Cluster.Remote

set_option autoImplicit false
set_option relaxedAutoImplicit false

/-!
Questions that are asked at the same time of a client that keeps mirrors. The questions for a kind share a cell for its
mirror. A cell is filled by one question at a time, which starts a mirror and waits until the mirror holds its first
list; it gives up if the mirror ends before that, or when the client is told to stop. The others wait for the cell,
and one of them starts another mirror if it gave up.

Every move is a transition of its own, so that the questions, the mirrors and the stop may come in any order in which
each of them is possible.
-/

namespace Stencil.Cluster

open Stencil.Label

def Mirror.objects : Mirror → List Object
  | .starting => []
  | .synced objects => objects

def Mirror.ofList (objects : List Object) : Mirror := .synced (objects.foldl (fun xs o => (Change.applied o).act xs) [])

/-- What a mirror holds after a change. It listens for changes only once it holds its first list. -/
def Mirror.hear (c : Change) : Mirror → Mirror
  | .starting => .starting
  | .synced objects => .synced (c.act objects)

def Mirror.isSynced : Mirror → Bool
  | .starting => false
  | .synced _ => true

@[simp, grind =] theorem Mirror.isSynced_ofList (objects : List Object) : (ofList objects).isSynced = true := rfl

@[simp, grind =] theorem Mirror.isSynced_hear (c : Change) (m : Mirror) : (m.hear c).isSynced = m.isSynced := by
  cases m <;> rfl

/-- A mirror that was started: the kind of its objects, what it holds, and whether it listens no more. -/
structure Replica where
  kind : Kind
  content : Mirror
  ended : Bool

def Replica.isReady (r : Replica) : Bool := r.content.isSynced

/-- A cell that the questions for a kind share: no mirror is being started for it, a question is starting one, or it is
filled for good with the one of that number. -/
inductive MirrorCell
  | idle
  | busy
  | filled (mirror : Nat)

/-- What is done about a question: its selector is to be read, the table is to be searched, it waits for what is in its
cell, waits for the mirror that it started, has a mirror to answer from, or is answered. A question with a selector
that is none is answered without a mirror. -/
inductive Asking
  | reading
  | searching (s : Selector)
  | waiting (s : Selector) (cell : Nat)
  | syncing (s : Selector) (cell mirror : Nat)
  | holding (s : Selector) (mirror : Nat)
  | answered (mirror? : Option Nat) (answer : Except Failure ObjectList)

structure Listing where
  query : Query
  stage : Asking

/-- Questions under way, the cells that were ever made, the number of the cell of each kind, the mirrors that were ever
started, and whether the client was told to stop. -/
structure Mirroring where
  listings : List Listing
  cells : List MirrorCell
  table : List (Kind × Nat)
  mirrors : List Replica
  stopped : Bool

/-- A move for one of the questions, an event in the life of one of the mirrors, or the stop. -/
inductive MirroringEvent
  | reads (listing : Nat)
  | enters (listing : Nat)
  | starts (listing : Nat)
  | readies (listing : Nat)
  | givesUp (listing : Nat)
  | finds (listing : Nat)
  | answers (listing : Nat)
  | lists (mirror : Nat) (objects : List Object)
  | hears (mirror : Nat) (c : Change)
  | ends (mirror : Nat)
  | stops

namespace Mirroring

def start (queries : List Query) : Mirroring := ⟨queries.map fun q => ⟨q, .reading⟩, [], [], [], false⟩

def advance (x : Mirroring) (t : Nat) (q : Query) (s : Asking) : Mirroring :=
  { x with listings := x.listings.set t ⟨q, s⟩ }

def setCell (x : Mirroring) (c : Nat) (cell : MirrorCell) : Mirroring := { x with cells := x.cells.set c cell }

def setMirror (x : Mirroring) (m : Nat) (r : Replica) : Mirroring := { x with mirrors := x.mirrors.set m r }

/-- The number of the cell of a kind, which is a new one if there was none. -/
def enter (x : Mirroring) (kind : Kind) : Nat × Mirroring :=
  match x.table.lookup kind with
  | some c => (c, x)
  | none => (x.cells.length, { x with cells := x.cells ++ [.idle], table := (kind, x.cells.length) :: x.table })

/-- A new mirror of a kind, which holds nothing yet. -/
def startMirror (x : Mirroring) (kind : Kind) : Mirroring :=
  { x with mirrors := x.mirrors ++ [⟨kind, .starting, false⟩] }

/-- What is left after an event, if it is possible. -/
def step? (x : Mirroring) : MirroringEvent → Option Mirroring
  | .reads t =>
    match x.listings[t]? with
    | some ⟨q, .reading⟩ =>
      match q.parseSelector with
      | .error f => some (x.advance t q (.answered none (.error f)))
      | .ok s => some (x.advance t q (.searching s))
    | _ => none
  | .enters t =>
    match x.listings[t]? with
    | some ⟨q, .searching s⟩ =>
      let (c, y) := x.enter q.kind
      some (y.advance t q (.waiting s c))
    | _ => none
  | .starts t =>
    match x.listings[t]? with
    | some ⟨q, .waiting s c⟩ =>
      match x.cells[c]? with
      | some .idle => some (((x.setCell c .busy).startMirror q.kind).advance t q (.syncing s c x.mirrors.length))
      | _ => none
    | _ => none
  | .readies t =>
    match x.listings[t]? with
    | some ⟨q, .syncing s c m⟩ =>
      if x.mirrors[m]?.any Replica.isReady then some ((x.setCell c (.filled m)).advance t q (.holding s m)) else none
    | _ => none
  | .givesUp t =>
    match x.listings[t]? with
    | some ⟨q, .syncing _ c m⟩ =>
      if x.stopped || x.mirrors[m]?.any fun r => r.ended && !r.isReady then
        some ((x.setCell c .idle).advance t q (.answered (some m) (.error (.syncFailed q.kind))))
      else none
    | _ => none
  | .finds t =>
    match x.listings[t]? with
    | some ⟨q, .waiting s c⟩ =>
      match x.cells[c]? with
      | some (.filled m) => some (x.advance t q (.holding s m))
      | _ => none
    | _ => none
  | .answers t =>
    match x.listings[t]? with
    | some ⟨q, .holding s m⟩ =>
      (x.mirrors[m]?).map fun r =>
        x.advance t q (.answered (some m) (.ok (Remote.fromMirror q s r.content.objects)))
    | _ => none
  | .lists m objects =>
    match x.mirrors[m]? with
    | some ⟨kind, _, false⟩ => some (x.setMirror m ⟨kind, .ofList objects, false⟩)
    | _ => none
  | .hears m c =>
    match x.mirrors[m]? with
    | some ⟨kind, content, false⟩ => some (x.setMirror m ⟨kind, content.hear c, false⟩)
    | _ => none
  | .ends m => (x.mirrors[m]?).map fun r => x.setMirror m { r with ended := true }
  | .stops => some { x with stopped := true }

/-- What is left after several events, if each of them is possible. -/
def run? (x : Mirroring) (events : List MirroringEvent) : Option Mirroring := events.foldlM step? x

end Mirroring

end Stencil.Cluster
