import Stencil.Template.Data
import Stencil.Template.Fault
import Stencil.Text.Regex

set_option autoImplicit false
set_option relaxedAutoImplicit false

/-!
Tests of what is at a place. The value is absent when there is nothing at the place.
-/

namespace Stencil.Template

open Stencil.Json Stencil.Text Stencil.Decimal

/-- A test decides on a value, if there is one, and on further values. -/
abbrev Test := Option Value → List Value → Except Fault Bool

namespace Test

def needed {α : Type} (name : String) (read : Value → Option α) (v : Option Value) : Except Fault α :=
  match v.bind read with
  | some a => .ok a
  | none => .error (.wrongInput .test name)

def operand {α : Type} (name : String) (read : Value → Option α) (args : List Value) : Except Fault α :=
  match args.head?.bind read with
  | some a => .ok a
  | none => .error (.wrongArgument .test name "0")

def withArity (name : String) (n : Nat) (test : Test) : Test := fun v args =>
  if args.length ≤ n then test v args else .error (.wrongArgument .test name "0")

def plain (name : String) (test : Value → Bool) : Test :=
  withArity name 0 fun v _ => (needed name some v).map test

def onTexts (name : String) (test : List Char → List Char → Bool) : Test :=
  withArity name 1 fun v args => do
    let s ← needed name Value.str? v
    let t ← operand name Value.str? args
    pure (test s.toList t.toList)

def leavesNothing (x y : Float) : Bool := remainder x y == 0.0

def containing : Test := fun v args => do
  match ← needed "containing" some v with
  | .str s => pure (Find.occurs (← operand "containing" Value.str? args).toList s.toList)
  | .arr xs => pure (xs.any (· == (← operand "containing" some args)))
  | .obj m => pure (m.lookup (← operand "containing" Value.str? args)).isSome
  | _ => .error (.wrongInput .test "containing")

def matching : Test := fun v args => do
  let s ← needed "matching" Value.str? v
  let pattern ← operand "matching" Value.str? args
  match Regex.parse? pattern.toList with
  | some e => pure (e.occursIn s.toList)
  | none => .error (.wrongArgument .test "matching" "0")

def table : List (String × Test) := [
  ("defined", withArity "defined" 0 fun v _ => .ok v.isSome),
  ("undefined", withArity "undefined" 0 fun v _ => .ok v.isNone),
  ("string", plain "string" fun v => v.str?.isSome),
  ("number", plain "number" fun v => v.num?.isSome),
  ("iterable", plain "iterable" fun v => v.items?.isSome || v.members?.isSome),
  ("object", plain "object" fun v => v.members?.isSome),
  ("odd", withArity "odd" 0 fun v _ =>
    (needed "odd" Data.float? v).map fun x => !leavesNothing x 2.0),
  ("even", withArity "even" 0 fun v _ =>
    (needed "even" Data.float? v).map fun x => leavesNothing x 2.0),
  ("divisibleby", withArity "divisibleby" 1 fun v args => do
    let x ← needed "divisibleby" Data.float? v
    let y ← operand "divisibleby" Data.float? args
    pure (leavesNothing x y)),
  ("starting_with", onTexts "starting_with" fun s t => (Find.after? t s).isSome),
  ("ending_with", onTexts "ending_with" fun s t => (Find.after? t.reverse s.reverse).isSome),
  ("containing", withArity "containing" 1 containing),
  ("matching", withArity "matching" 1 matching)]

def find? (name : String) : Option Test := table.lookup name

end Test

end Stencil.Template
