import Stencil.Template.Data
import Stencil.Template.Fault

set_option autoImplicit false
set_option relaxedAutoImplicit false

/-!
Filters, and how they read their input and their named arguments.
-/

namespace Stencil.Template

open Stencil.Json

/-- A filter turns a value and named arguments into a value. -/
abbrev Filter := Value → Arguments → Except Fault Value

namespace Filter

/-- The input of a filter in the form that the filter works on. -/
def input {α : Type} (name : String) (read : Value → Option α) (v : Value) : Except Fault α :=
  match read v with
  | some a => .ok a
  | none => .error (.wrongInput .filter name)

def argument? {α : Type} (name key : String) (read : Value → Option α) (args : Arguments) :
    Except Fault (Option α) :=
  match args.lookup key with
  | none => .ok none
  | some v =>
    match read v with
    | some a => .ok (some a)
    | none => .error (.wrongArgument .filter name key)

def argument {α : Type} (name key : String) (read : Value → Option α) (args : Arguments) :
    Except Fault α :=
  match argument? name key read args with
  | .ok (some a) => .ok a
  | .ok none => .error (.missingArgument .filter name key)
  | .error e => .error e

def chars? (v : Value) : Option (List Char) := v.str?.map String.toList

def ofChars (s : List Char) : Value := .str (String.ofList s)

/-- The filter that maps one text to another, without regard to arguments. -/
def onText (name : String) (f : List Char → List Char) : Filter := fun v _ =>
  (input name chars? v).map fun s => ofChars (f s)

end Filter

end Stencil.Template
