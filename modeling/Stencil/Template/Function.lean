import Stencil.Cluster.Memo
import Stencil.Decimal.Fixed
import Stencil.Template.Data
import Stencil.Template.Fault
import Stencil.Template.Filter.Date

set_option autoImplicit false
set_option relaxedAutoImplicit false

/-!
The functions of templates: one for each kind of object, and some general ones.
-/

namespace Stencil.Template

open Stencil.Json Stencil.Cluster

/-- The order in which a function meets the arguments of a call, which need not be that in which they are written. -/
class ArgumentOrder where
  arrange : Arguments → Arguments
  perm : ∀ args, (arrange args).Perm args

/-- Where no other order is given, the last argument comes first. -/
instance : ArgumentOrder := ⟨List.reverse, List.reverse_perm⟩

/-- What a template can ask about the world: the cluster, the variables of the environment, and the time in
seconds since the beginning of 1970. The order of arguments is the world's as well. -/
structure World (σ : Type) where
  client : Client σ
  environment : List (String × String)
  seconds : Int
  [order : ArgumentOrder]

/-- A function turns named arguments into a value, and may ask the cluster. -/
abbrev Function (σ : Type) := Arguments → σ → Except Fault Value × σ

namespace Function

def argument? {α : Type} (name key : String) (read : Value → Option α) (args : Arguments) :
    Except Fault (Option α) :=
  match args.lookup key with
  | none => .ok none
  | some v =>
    match read v with
    | some a => .ok (some a)
    | none => .error (.wrongArgument .function name key)

def argument {α : Type} (name key : String) (read : Value → Option α) (args : Arguments) :
    Except Fault α :=
  match argument? name key read args with
  | .ok (some a) => .ok a
  | .ok none => .error (.missingArgument .function name key)
  | .error e => .error e

/-- The numbers from a first one up to a limit, in steps. -/
def range (args : Arguments) : Except Fault Value := do
  let start ← argument? "range" "start" Data.count? args
  let step ← argument? "range" "step_by" Data.count? args
  let stop ← argument "range" "end" Data.count? args
  let start := start.getD 0
  let step := step.getD 1
  if stop < start ∨ step = 0 then .error (.wrongArgument .function "range" "start")
  else
    let count := (stop - start + step - 1) / step
    pure (.arr ((List.range count).map fun i => .ofNat (start + i * step)))

def throw (args : Arguments) : Except Fault Value := do
  let text ← argument "throw" "message" Value.str? args
  .error (.thrown text)

/-- The present time, as seconds or written out. -/
def now (seconds : Int) (args : Arguments) : Except Fault Value := do
  let plain ← argument? "now" "timestamp" Value.bool? args
  let _ ← argument? "now" "utc" Value.bool? args
  if plain.getD false then pure (.ofInt seconds)
  else
    let m := Filter.universal (Time.Moment.ofSeconds seconds)
    pure (Filter.ofChars ((Time.Pattern.format? "%+".toList m).getD []))

/-- Some number of a range that is not empty. The first one will do. -/
def anyNumber (args : Arguments) : Except Fault Value := do
  let read := Data.int? .signed32
  let start ← argument? "get_random" "start" read args
  let stop ← argument "get_random" "end" read args
  if start.getD 0 < stop then pure (.ofInt (start.getD 0))
  else .error (.wrongArgument .function "get_random" "end")

def environment (env : List (String × String)) (args : Arguments) : Except Fault Value := do
  let name ← argument "get_env" "name" Value.str? args
  match env.lookup name with
  | some v => pure (.str v)
  | none =>
    match args.lookup "default" with
    | some v => pure v
    | none => .error (.wrongArgument .function "get_env" "name")

/-- The function that lists the objects of a kind. -/
def resource {σ : Type} (c : Client σ) (kind : Kind) : Function σ := fun args s =>
  match queryFor kind args with
  | .error e => (.error (.resource e), s)
  | .ok q =>
    match c.list q s with
    | (.ok l, s) => (.ok l.toValue, s)
    | (.error e, s) => (.error (.resource (.query kind e)), s)

def find? {σ : Type} (w : World σ) (name : String) : Option (Function σ) :=
  match Kind.ofName? name with
  | some kind => some fun args => resource w.client kind (w.order.arrange args)
  | none =>
    let general : Option (Arguments → Except Fault Value) :=
      match name with
      | "range" => some range
      | "throw" => some throw
      | "now" => some (now w.seconds)
      | "get_random" => some anyNumber
      | "get_env" => some (environment w.environment)
      | _ => none
    general.map fun f args s => (f args, s)

end Function

end Stencil.Template
