import Stencil.Cluster.Inventory

set_option autoImplicit false
set_option relaxedAutoImplicit false

/-!
Lookups that are under way at the same time and share the cells of a memory. A lookup takes the cell of its
question from the table, or enters a new one there, and keeps it even if the table is flushed. A cell is filled
by one lookup at a time, which asks the client; the others wait for it, and one of them asks again if it fails.

Every move is a transition of its own, so that the lookups and the flushes may come in any order in which each
of them is possible.
-/

namespace Stencil.Cluster

/-- A list that the client gave, and how many moves had been made when it was asked for it. -/
structure Delivery where
  list : ObjectList
  begun : Nat

/-- A cell that lookups share: nobody is filling it, a lookup is asking the client, or it is filled for good. -/
inductive SharedCell
  | idle
  | busy
  | filled (d : Delivery)

/-- What a lookup does: it searches the table, is about to enter a cell because it found none, has its cell and
waits for what is in it, asks the client, has been refused by it, or is through. -/
inductive Stage
  | searching
  | lacking
  | waiting (cell : Nat)
  | fetching (cell begun : Nat)
  | refused (cell : Nat) (f : Failure)
  | returned (cell : Nat) (answer : Except Failure Delivery)

def Stage.cell? : Stage → Option Nat
  | .searching | .lacking => none
  | .waiting c | .fetching c _ | .refused c _ | .returned c _ => some c

structure Lookup where
  query : Query
  stage : Stage

/-- Lookups under way, the cells that were ever made, the number of the cell under each key, and how many moves
have been made. -/
structure Sharing where
  lookups : List Lookup
  cells : List SharedCell
  table : List (String × Nat)
  moves : Nat

inductive SharingEvent
  | finds (lookup : Nat)
  | misses (lookup : Nat)
  | enters (lookup : Nat)
  | starts (lookup : Nat)
  | succeeds (lookup : Nat) (l : ObjectList)
  | fails (lookup : Nat) (f : Failure)
  | returns (lookup : Nat)
  | flushes

namespace Sharing

def start (queries : List Query) : Sharing := ⟨queries.map fun q => ⟨q, .searching⟩, [], [], 0⟩

def advance (x : Sharing) (t : Nat) (q : Query) (s : Stage) : Sharing := { x with lookups := x.lookups.set t ⟨q, s⟩ }

def setCell (x : Sharing) (c : Nat) (cell : SharedCell) : Sharing := { x with cells := x.cells.set c cell }

/-- The number of the cell under a key, which is a new one if there was none. -/
def enter (x : Sharing) (key : String) : Nat × Sharing :=
  match x.table.lookup key with
  | some c => (c, x)
  | none =>
    (x.cells.length,
      { x with cells := x.cells ++ [.idle], table := (key, x.cells.length) :: x.table })

/-- What is left after a move, if the move is possible, without the count of the moves. -/
def act? (x : Sharing) : SharingEvent → Option Sharing
  | .finds t =>
    match x.lookups[t]? with
    | some ⟨q, .searching⟩ => (x.table.lookup q.key).map fun c => x.advance t q (.waiting c)
    | _ => none
  | .misses t =>
    match x.lookups[t]? with
    | some ⟨q, .searching⟩ => if (x.table.lookup q.key).isNone then some (x.advance t q .lacking) else none
    | _ => none
  | .enters t =>
    match x.lookups[t]? with
    | some ⟨q, .lacking⟩ =>
      let (c, y) := x.enter q.key
      some (y.advance t q (.waiting c))
    | _ => none
  | .starts t =>
    match x.lookups[t]? with
    | some ⟨q, .waiting c⟩ =>
      match x.cells[c]? with
      | some .idle => some ((x.setCell c .busy).advance t q (.fetching c x.moves))
      | _ => none
    | _ => none
  | .succeeds t l =>
    match x.lookups[t]? with
    | some ⟨q, .fetching c begun⟩ => some ((x.setCell c (.filled ⟨l, begun⟩)).advance t q (.waiting c))
    | _ => none
  | .fails t f =>
    match x.lookups[t]? with
    | some ⟨q, .fetching c _⟩ => some ((x.setCell c .idle).advance t q (.refused c f))
    | _ => none
  | .returns t =>
    match x.lookups[t]? with
    | some ⟨q, .waiting c⟩ =>
      match x.cells[c]? with
      | some (.filled d) => some (x.advance t q (.returned c (.ok d)))
      | _ => none
    | some ⟨q, .refused c f⟩ => some (x.advance t q (.returned c (.error f)))
    | _ => none
  | .flushes => some { x with table := [] }

/-- What is left after a move, if the move is possible. -/
def step? (x : Sharing) (e : SharingEvent) : Option Sharing :=
  (x.act? e).map fun y => { y with moves := x.moves + 1 }

/-- What is left after several moves, if each of them is possible. -/
def run? (x : Sharing) (events : List SharingEvent) : Option Sharing := events.foldlM step? x

end Sharing

end Stencil.Cluster
