import Stencil.Json.Printer
import Stencil.Template.Data
import Stencil.Template.Expr

set_option autoImplicit false
set_option relaxedAutoImplicit false

/-!
The variables that a part of a template sees. They live in frames, the innermost of which comes first.
-/

namespace Stencil.Template

open Stencil.Json

inductive FrameKind
  | page
  | definition (library name : String)
  | loop
  | inclusion
deriving DecidableEq, Repr

/-- The round of a loop: the names bound in it, with their values, its number and the number of rounds. -/
structure Round where
  key? : Option (String × String)
  name : String
  value : Value
  index : Nat
  count : Nat

structure Frame where
  kind : FrameKind
  bound : List (String × Value)
  round? : Option Round

def Frame.page : Frame := ⟨.page, [], none⟩

def Round.about (r : Round) : List String → Option Value
  | ["index"] => some (.ofNat (r.index + 1))
  | ["index0"] => some (.ofNat r.index)
  | ["first"] => some (.bool (r.index = 0))
  | ["last"] => some (.bool (r.index + 1 = r.count))
  | _ => none

def Round.find? (r : Round) (name : String) (keys : List String) : Option Value :=
  if keys.isEmpty && r.key?.map (·.1) == some name then r.key?.map fun k => .str k.2
  else if name == "loop" then r.about keys
  else if name == r.name then Data.follow r.value keys
  else none

/-- What a frame binds. A variable that is set goes before one of the loop. -/
def Frame.find? (f : Frame) (name : String) (keys : List String) : Option Value :=
  ((f.bound.lookup name).bind (Data.follow · keys)).or (f.round?.bind (·.find? name keys))

/-- The frames further out cannot be seen through a frame. -/
def Frame.isClosed (f : Frame) : Bool :=
  match f.kind with
  | .page | .definition _ _ => true
  | .loop | .inclusion => false

def Frame.set (f : Frame) (name : String) (v : Value) : Frame :=
  { f with bound := (name, v) :: f.bound.filter (·.1 != name) }

abbrev Scope := List Frame

namespace Scope

def find? : Scope → String → List String → Option Value
  | [], _, _ => none
  | f :: r, name, keys =>
    match f.find? name keys with
    | some v => some v
    | none => if f.isClosed then none else find? r name keys

def keyOf? : Value → Option String
  | .str s => some s
  | .num n => some n.toText
  | _ => none

/-- The variable and the keys that a place stands for. -/
def resolve (s : Scope) : Place → Option (String × List String)
  | .variable n => some (n, [])
  | .key p k => (resolve s p).map fun m => (m.1, m.2 ++ [k])
  | .at p i => do
    let (n, keys) ← resolve s p
    let (m, indexKeys) ← resolve s i
    let k ← (s.find? m indexKeys).bind keyOf?
    some (n, keys ++ [k])

def bindings (f : Frame) : List (String × Value) :=
  let round := match f.round? with
    | none => []
    | some r => (r.name, r.value) :: (r.key?.map fun k => (k.1, Value.str k.2)).toList
  f.bound ++ round

/-- The variables that can be seen. Of two with one name the outer one is told. -/
def visible : Scope → List (String × Value)
  | [] => []
  | f :: r =>
    match f.kind with
    | .definition _ _ => bindings f
    | _ => bindings f ++ visible r

def everything : String := "__tera_context"

def lookup (s : Scope) (p : Place) : Option Value :=
  if p = .variable everything then some (.str (Printer.pretty (Value.ofMembers (visible s))))
  else (resolve s p).bind fun m => s.find? m.1 m.2

def set (s : Scope) (name : String) (v : Value) : Scope :=
  match s with
  | [] => []
  | f :: r => f.set name v :: r

/-- Sets a variable in the innermost frame that is not one of a loop. -/
def setEverywhere : Scope → String → Value → Scope
  | [], _, _ => []
  | f :: r, name, v =>
    if f.kind = .loop then f :: setEverywhere r name v else f.set name v :: r

end Scope

end Stencil.Template
