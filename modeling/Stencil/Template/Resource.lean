import Stencil.Cluster.Inventory

set_option autoImplicit false
set_option relaxedAutoImplicit false

/-!
The functions that list objects of a cluster. There is one for each kind, under its name, with the named
arguments `selector` and, where the objects live in namespaces, `namespace`.
-/

namespace Stencil.Template

open Stencil.Json Stencil.Cluster

abbrev Arguments := List (String × Value)

inductive ResourceFault
  | tooManyArguments (kind : Kind) (given : Nat)
  | unexpectedArgument (kind : Kind) (name : String)
  | invalidArgument (kind : Kind) (name : String)
  | query (kind : Kind) (cause : Failure)
deriving DecidableEq, Repr

def argumentLimit (kind : Kind) : Nat :=
  match kind.scope with
  | .namespaced => 2
  | .cluster => 1

/-- The names of the arguments that the function of a kind takes. -/
def acceptedArguments (kind : Kind) : List String :=
  match kind.scope with
  | .namespaced => ["selector", "namespace"]
  | .cluster => ["selector"]

/-- The first argument that the function of a kind does not take. -/
def argumentFault? (kind : Kind) : Arguments → Option ResourceFault
  | [] => none
  | (name, value) :: r =>
    if !(acceptedArguments kind).contains name then some (.unexpectedArgument kind name)
    else if value.str?.isNone then some (.invalidArgument kind name)
    else argumentFault? kind r

/-- The question that a call of the function of a kind asks. -/
def queryFor (kind : Kind) (args : Arguments) : Except ResourceFault Query :=
  if argumentLimit kind < args.length then .error (.tooManyArguments kind args.length)
  else
    match argumentFault? kind args with
    | some e => .error e
    | none =>
      let given (name : String) : Option String := (args.lookup name).bind Value.str?
      .ok (Query.of kind (given "namespace") ((given "selector").getD ""))

/-- The causes of a fault from the outermost inwards. -/
def ResourceFault.chain : ResourceFault → List String
  | .tooManyArguments k given =>
    [k.name ++ ": too many arguments, accepts at most " ++ toString (argumentLimit k) ++ " but got "
      ++ toString given]
  | .unexpectedArgument k name =>
    let accepted := (acceptedArguments k).map fun a => "'" ++ a ++ "'"
    [k.name ++ ": unexpected argument '" ++ name ++ "', accepts " ++ " and ".intercalate accepted]
  | .invalidArgument k name => [k.name ++ ": argument '" ++ name ++ "' must be a string"]
  | .query k cause => (k.name ++ ": " ++ cause.message) :: cause.chain

end Stencil.Template
