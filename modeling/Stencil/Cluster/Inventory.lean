import Stencil.Cluster.ObjectList

set_option autoImplicit false
set_option relaxedAutoImplicit false

/-!
A cluster held in memory. It counts the questions that reach it, and can be made to fail for a kind.
-/

namespace Stencil.Cluster

/-- The answer to a question and the state of what answered it. -/
abbrev Answering (σ α : Type) := σ → Except Failure α × σ

/-- Something that answers questions, with a state that the answers may change and depend on. -/
structure Client (σ : Type) where
  list : Query → Answering σ ObjectList

/-- The objects of each kind in the order of their insertion, the kinds that fail, and how often each
question was asked. -/
structure Inventory where
  objects : Kind → List Object
  failing : List Kind
  asked : List (String × Nat)

def Inventory.empty : Inventory := ⟨fun _ => [], [], []⟩

def Inventory.insert (i : Inventory) (l : ObjectList) : Inventory :=
  { i with objects := fun k => if k = l.kind then i.objects k ++ l.items else i.objects k }

def Inventory.replace (i : Inventory) (l : ObjectList) : Inventory :=
  { i with objects := fun k => if k = l.kind then l.items else i.objects k }

def Inventory.fail (i : Inventory) (k : Kind) : Inventory :=
  { i with failing := if i.failing.contains k then i.failing else k :: i.failing }

def Inventory.heal (i : Inventory) (k : Kind) : Inventory :=
  { i with failing := i.failing.filter (· ≠ k) }

def countUp (key : String) : List (String × Nat) → List (String × Nat)
  | [] => [(key, 1)]
  | (k, n) :: r => if k = key then (k, n + 1) :: r else (k, n) :: countUp key r

def Inventory.fetches (i : Inventory) (key : String) : Nat := (i.asked.lookup key).getD 0

def Inventory.totalFetches (i : Inventory) : Nat := i.asked.foldr (fun q n => q.2 + n) 0

/-- The answer to a question: the objects asked for, in order. -/
def Inventory.answer (i : Inventory) (q : Query) : Except Failure ObjectList :=
  if i.failing.contains q.kind then .error (.syncFailed q.kind)
  else q.parseSelector.map fun s => (ObjectList.select ⟨q.kind, i.objects q.kind⟩ q.ns? s).sort

def Inventory.list : Query → Answering Inventory ObjectList := fun q i =>
  (i.answer q, { i with asked := countUp q.key i.asked })

def Inventory.client : Client Inventory := ⟨Inventory.list⟩

/-- The client that asks questions for other kinds than it is asked, by a table. -/
def Client.redirect {σ : Type} (c : Client σ) (table : List (Kind × Kind)) : Client σ where
  list q := c.list { q with kind := (table.lookup q.kind).getD q.kind }

end Stencil.Cluster
