import Stencil.Cluster.Inventory

set_option autoImplicit false
set_option relaxedAutoImplicit false

/-!
A memory for answers. It has a cell for each question that was asked since it was flushed. The cell is filled
by the first success, and a question whose cell is filled is not asked again; one that failed leaves its cell
empty and is asked anew each time.
-/

namespace Stencil.Cluster

/-- The place for the answer to a question, empty until there is one. -/
abbrev Cell := Option ObjectList

/-- The cells made since the last flush, each under the key of its question. -/
structure Memo where
  cells : List (String × Cell)
  nodup : (cells.map Prod.fst).Nodup

namespace Memo

def empty : Memo := ⟨[], List.nodup_nil⟩

/-- How many answers are kept. Empty cells do not count. -/
def size (m : Memo) : Nat := m.cells.countP fun c => c.2.isSome

def get? (m : Memo) (key : String) : Option ObjectList := (m.cells.lookup key).join

def hasCell (m : Memo) (key : String) : Bool := (m.cells.map Prod.fst).contains key

/-- The memory with a cell under a key. A new cell is empty, and one that is there stays as it is. -/
def enter (m : Memo) (key : String) : Memo :=
  if h : m.hasCell key then m
  else
    { cells := (key, none) :: m.cells
      nodup := List.nodup_cons.mpr ⟨by simpa [hasCell] using h, m.nodup⟩ }

def fill (m : Memo) (key : String) (l : ObjectList) : Memo where
  cells := m.cells.map fun c => if c.1 = key then (key, some l) else c
  nodup := by
    have h : (Prod.fst ∘ fun c : String × Cell => if c.1 = key then (key, some l) else c) = Prod.fst := by
      funext c
      by_cases hc : c.1 = key <;> simp [hc]
    rw [List.map_map, h]
    exact m.nodup

/-- Answers from the memory, or asks the client and keeps a success. -/
def list {σ : Type} (c : Client σ) (q : Query) : Answering (Memo × σ) ObjectList := fun (m, s) =>
  let m := m.enter q.key
  match m.get? q.key with
  | some l => (.ok l, (m, s))
  | none =>
    match c.list q s with
    | (.ok l, s) => (.ok l, (m.fill q.key l, s))
    | (.error e, s) => (.error e, (m, s))

/-- The client that asks another one only what it does not remember. -/
def client {σ : Type} (c : Client σ) : Client (Memo × σ) := ⟨list c⟩

/-- Asks for the objects of a kind, and refuses a list of another one. -/
def listOf {σ : Type} (c : Client σ) (kind : Kind) (ns : Option String) (selector : String) :
    Answering (Memo × σ) ObjectList := fun s =>
  match list c (Query.of kind ns selector) s with
  | (.ok l, s) => (if l.kind = kind then .ok l else .error (.unexpectedKind kind l.kind), s)
  | (.error e, s) => (.error e, s)

end Memo

end Stencil.Cluster
