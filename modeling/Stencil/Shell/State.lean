import Stencil.Decimal.Integer
import Stencil.Machine.Program
import Stencil.Shell.Parser

set_option autoImplicit false
set_option relaxedAutoImplicit false

/-!
What a shell remembers, and actions that read and change it and make requests to the machine.
-/

namespace Stencil.Shell

open Stencil.Machine Stencil.Text

def octets (s : String) : Octets := (Utf8.encode s).map fun b => Char.ofNat b.toNat

def bytesOf (s : Octets) : List UInt8 := s.map fun c => UInt8.ofNat c.toNat

def ofBytes (b : List UInt8) : Octets := b.map fun x => Char.ofNat x.toNat

def textOf (s : Octets) : String := Utf8.decodeLossy (bytesOf s)

def ofNat (n : Nat) : Octets := (toString n).toList

structure Variable where
  value : Octets
  exported : Bool
  fixed : Bool

/-- What a shell remembers. The processes that it has started and not waited for are its jobs. Failures are
tolerated where a condition is tested. For each function at work it keeps the variables that are local to it, as
they were before. The speaker is named in messages. -/
structure State where
  bindings : List (Octets × Variable)
  positional : List Octets
  name : Octets
  root : Nat
  self : Nat
  status : Nat
  lastJob : Option Nat
  jobs : List Nat
  functions : List (Octets × Command)
  documents : List (Nat × Word)
  fresh : Nat
  stopsOnFailure : Bool
  stopsOnUnset : Bool
  keepsPatterns : Bool
  traps : List (Nat × Octets)
  tolerant : Bool
  loops : Nat
  substituted : Option Nat
  line : Nat
  speaker : String
  kept : List (List (Octets × Option Variable))
  traces : Bool
  mask : Octets
  aside : Nat

/-- An action of a shell: it goes on, with a result and what is remembered then, after requests to the machine. -/
def Action (α : Type) : Type := State → (α → State → Program) → Program

namespace Action

instance : Monad Action where
  pure a := fun s k => k a s
  bind m f := fun s k => m s fun a s => f a s k

def get : Action State := fun s k => k s s

def modify (f : State → State) : Action Unit := fun s k => k () (f s)

def ask {β : Type} (request : (β → Program) → Program) : Action β := fun s k => request fun b => k b s

def tell (request : Program → Program) : Action Unit := fun s k => request (k () s)

def halt {α : Type} (p : Program) : Action α := fun _ _ => p

/-- What an action comes to from what is remembered, without anything behind it. -/
def run (m : Action Unit) (s : State) : Program := m s fun _ s => Program.exit s.status

def setStatus (n : Nat) : Action Unit := modify fun s => { s with status := n }

def write (file : Nat) (s : Octets) : Action Bool := ask (Program.write file (bytesOf s))

def complain (message : String) : Action Unit := do
  let s ← get
  let _ ← write 2 (s.name ++ octets (": " ++ toString s.line ++ ": " ++ s.speaker ++ message ++ "\n"))
  pure ()

def held? (s : State) (name : Octets) : Option Octets := (s.bindings.lookup name).map (·.value)

/-- Gives a variable a value. There is no way around a fixed one. -/
def assign (name value : Octets) : Action Unit := do
  let s ← get
  match s.bindings.lookup name with
  | some v =>
    if v.fixed then
      complain (textOf name ++ ": is read only")
      halt (Program.exit 2)
    else
      modify fun s => { s with bindings := s.bindings.map fun m =>
        if m.1 = name then (name, { v with value := value }) else m }
  | none => modify fun s => { s with bindings := s.bindings ++ [(name, ⟨value, false, false⟩)] }

/-- Makes a variable local to the function at work. -/
def keep (name : Octets) : Action Unit := modify fun s =>
  match s.kept with
  | frame :: rest =>
    if (frame.lookup name).isSome then s
    else { s with kept := ((name, s.bindings.lookup name) :: frame) :: rest }
  | [] => s

/-- Gives the variables that are local to a function that ends their earlier values. -/
def release : Action Unit := modify fun s =>
  match s.kept with
  | frame :: rest =>
    let bindings := frame.foldl (fun vs (name, before) =>
      let others := vs.filter fun m => m.1 ≠ name
      match before with
      | some v => others ++ [(name, v)]
      | none => others) s.bindings
    { s with bindings := bindings, kept := rest }
  | [] => s

def optionLetters (s : State) : Octets :=
  (if s.stopsOnFailure then ['e'] else []) ++ (if s.keepsPatterns then ['f'] else [])
    ++ (if s.stopsOnUnset then ['u'] else []) ++ if s.traces then ['x'] else []

/-- The value of a parameter: of a variable, a position, or something that the shell knows. -/
def parameter? (s : State) (name : Octets) : Option Octets :=
  match name with
  | ['#'] => some (ofNat s.positional.length)
  | ['?'] => some (ofNat s.status)
  | ['$'] => some (ofNat s.root)
  | ['!'] => s.lastJob.map ofNat
  | ['-'] => some (optionLetters s)
  | ['@'] | ['*'] =>
    if s.positional.isEmpty then none else some ([' '].intercalate s.positional)
  | name =>
    match Decimal.natural? name with
    | some 0 => some s.name
    | some (n + 1) => s.positional[n]?
    | none => held? s name

end Action

end Stencil.Shell
