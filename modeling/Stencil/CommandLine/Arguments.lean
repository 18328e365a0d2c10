import Stencil.CommandLine.Flag

set_option autoImplicit false
set_option relaxedAutoImplicit false

/-!
Command lines. A flag that waits for its value takes the next argument, unless that looks like a flag itself;
whether the value is good is seen when the next flag comes, or at the end.
-/

namespace Stencil.CommandLine

open Stencil.Settings Stencil.Time

/-- What has been read of a command line: the flags with their values, in order, and a flag that still waits
for its value or whose value was not looked at yet. -/
structure Reading where
  given : List (Flag × FlagValue)
  pending : Option (Flag × Option String)

namespace Reading

def start : Reading := ⟨[], none⟩

def add (r : Reading) (f : Flag) (v : FlagValue) : Except Stop Reading :=
  if !f.isRepeatable && r.given.any (·.1 = f) then .error .argumentConflict
  else .ok { r with given := r.given ++ [(f, v)] }

def addText (r : Reading) (f : Flag) (k : ValueKind) (s : String) : Except Stop Reading := do
  if !f.isRepeatable && r.given.any (·.1 = f) then .error .argumentConflict
  else r.add f (← k.read s)

def settle (r : Reading) : Except Stop Reading :=
  match r.pending with
  | none => .ok r
  | some (_, none) => .error .invalidValue
  | some (f, some s) => addText { r with pending := none } f (f.valueKind?.getD .text) s

/-- Adds a flag without value. Help and version end the reading. -/
def addPlain (r : Reading) (f : Flag) : Except Stop Reading := do
  let r ← r.settle
  match f with
  | .help => .error .displayHelp
  | .version => .error .displayVersion
  | f => r.add f .given

/-- Adds a flag that takes a value, which may be attached to it. -/
def addValued (r : Reading) (f : Flag) (k : ValueKind) (attached : Option String) :
    Except Stop Reading := do
  let r ← r.settle
  match attached with
  | some s => r.addText f k s
  | none => .ok { r with pending := some (f, none) }

/-- A long flag, perhaps with an equals sign and a value. -/
def long (r : Reading) (s : List Char) : Except Stop Reading :=
  let name := s.takeWhile (· ≠ '=')
  let attached := match s.dropWhile (· ≠ '=') with
    | [] => none
    | _ :: v => some (String.ofList v)
  match Flag.ofLong? (String.ofList name) with
  | none => .error .unknownArgument
  | some f =>
    match f.valueKind?, attached with
    | some k, attached => r.addValued f k attached
    | none, none => r.addPlain f
    | none, some _ => .error .tooManyValues

/-- Letters behind a dash. What stands behind the letter of a flag with a value is the value. -/
def letters (r : Reading) : List Char → Except Stop Reading
  | [] => .ok r
  | c :: rest =>
    match Flag.ofLetter? c with
    | none => .error .unknownArgument
    | some f =>
      match f.valueKind? with
      | some k =>
        let attached := match rest with
          | [] => none
          | '=' :: v => some (String.ofList v)
          | v => some (String.ofList v)
        r.addValued f k attached
      | none =>
        match r.addPlain f with
        | .ok r => letters r rest
        | .error e => .error e

/-- An argument that is no flag: the value that a flag waits for. -/
def plain (r : Reading) (s : String) : Except Stop Reading :=
  match r.pending with
  | some (f, none) => .ok { r with pending := some (f, some s) }
  | _ => .error .unknownArgument

/-- Reads arguments in order. Behind two dashes nothing is a flag. -/
def arguments (r : Reading) : List String → Except Stop Reading
  | [] => .ok r
  | s :: rest =>
    match s.toList with
    | ['-', '-'] => if rest.isEmpty then .ok r else .error .unknownArgument
    | '-' :: '-' :: name =>
      match r.long name with
      | .ok r => arguments r rest
      | .error e => .error e
    | '-' :: c :: cs =>
      match r.letters (c :: cs) with
      | .ok r => arguments r rest
      | .error e => .error e
    | _ =>
      match r.plain s with
      | .ok r => arguments r rest
      | .error e => .error e

/-- Takes from the environment what was not given. -/
def environment (env : List (String × String)) : List Flag → Reading → Except Stop Reading
  | [], r => .ok r
  | f :: fs, r =>
    match f.inEnvironment?.bind fun n => env.lookup n with
    | none => environment env fs r
    | some s =>
      if r.given.any (·.1 = f) then environment env fs r
      else
        let value := match f.valueKind? with
          | some k => k.read s
          | none => readTruth s
        match value with
        | .ok v => environment env fs { r with given := r.given ++ [(f, v)] }
        | .error e => .error e

def value? (r : Reading) (f : Flag) : Option FlagValue := r.given.lookup f

/-- A flag holds when it is given, unless the environment says that it does not. -/
def holds (r : Reading) (f : Flag) : Bool :=
  match r.value? f with
  | some .given | some (.truth true) => true
  | _ => false

def text? (r : Reading) (f : Flag) : Option String :=
  match r.value? f with
  | some (.text s) => some s
  | _ => none

def duration? (r : Reading) (f : Flag) : Option Duration :=
  match r.value? f with
  | some (.duration d) => some d
  | _ => none

/-- The texts of a flag that may be given several times. -/
def texts (r : Reading) (f : Flag) : List String :=
  r.given.filterMap fun
    | (g, .text s) => if g = f then some s else none
    | _ => none

end Reading

/-- What a command line says: the inputs of the settings, how much is to be logged, and in which form. -/
structure Arguments where
  inputs : Inputs
  verbosity : Nat
  logJson : Bool
deriving DecidableEq, Repr

def Arguments.logLevel (a : Arguments) : String :=
  if a.verbosity = 0 then "info" else if a.verbosity = 1 then "debug" else "trace"

def Reading.result (r : Reading) : Arguments where
  inputs := {
    configFile := r.text? .config
    dryRun := r.holds .dryRun
    runOnce := r.holds .once
    inCluster := r.holds .inCluster
    kubeConfig := r.text? .kubeConfig
    master := r.text? .master
    pollPeriod := r.duration? .pollPeriod
    commandTimeout := r.duration? .commandTimeout
    left := r.text? .left
    right := r.text? .right
    templates := r.texts .template }
  verbosity := (r.given.filter (·.1 = .verbose)).length
  logJson := r.holds .logJson

/-- Reads a command line without the name of the program, and the environment. -/
def parse (args : List String) (env : List (String × String)) : Except Stop Arguments := do
  let r ← Reading.start.arguments args
  let r ← r.settle
  let r ← Reading.environment env Flag.all r
  pure r.result

end Stencil.CommandLine
