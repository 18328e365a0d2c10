import Stencil.Settings.Config

set_option autoImplicit false
set_option relaxedAutoImplicit false

/-!
The flags of the command line, and the values that they take.
-/

namespace Stencil.CommandLine

open Stencil.Time

inductive Flag
  | once
  | dryRun
  | config
  | master
  | kubeConfig
  | inCluster
  | pollPeriod
  | commandTimeout
  | left
  | right
  | template
  | verbose
  | logJson
  | help
  | version
deriving DecidableEq, Repr

inductive ValueKind
  | path
  | text
  | duration
deriving DecidableEq, Repr

/-- All flags, in the order in which the environment is asked for them. -/
def Flag.all : List Flag := [
  .once, .dryRun, .config, .master, .kubeConfig, .inCluster, .pollPeriod, .commandTimeout, .left, .right,
  .template, .verbose, .logJson, .help, .version]

def Flag.longNames : Flag → List String
  | .once => ["once"]
  | .dryRun => ["dry-run"]
  | .config => ["config"]
  | .master => ["master"]
  | .kubeConfig => ["kube-config"]
  | .inCluster => ["guess-kube-api-settings"]
  | .pollPeriod => ["poll-period", "poll-time"]
  | .commandTimeout => ["command-timeout"]
  | .left => ["left-delimiter"]
  | .right => ["right-delimiter"]
  | .template => ["template"]
  | .verbose => ["verbose"]
  | .logJson => ["log-json"]
  | .help => ["help"]
  | .version => ["version"]

def Flag.letter? : Flag → Option Char
  | .config => some 'c'
  | .kubeConfig => some 'k'
  | .pollPeriod => some 'p'
  | .left => some 'l'
  | .right => some 'r'
  | .template => some 't'
  | .verbose => some 'v'
  | .help => some 'h'
  | .version => some 'V'
  | .once | .dryRun | .master | .inCluster | .commandTimeout | .logJson => none

/-- The kind of the value that a flag takes, if it takes one. -/
def Flag.valueKind? : Flag → Option ValueKind
  | .config | .kubeConfig => some .path
  | .master | .left | .right | .template => some .text
  | .pollPeriod | .commandTimeout => some .duration
  | .once | .dryRun | .inCluster | .verbose | .logJson | .help | .version => none

/-- The variable of the environment that stands for a flag that is not given. -/
def Flag.inEnvironment? : Flag → Option String
  | .once => some "KUBEPLATE_ONCE"
  | .dryRun => some "KUBEPLATE_DRY_RUN"
  | .config => some "KUBEPLATE_CONFIG"
  | .master => some "KUBEPLATE_MASTER"
  | .kubeConfig => some "KUBEPLATE_KUBE_CONFIG"
  | .inCluster => some "KUBEPLATE_GUESS_KUBE_API_SETTINGS"
  | .pollPeriod => some "KUBEPLATE_POLL_PERIOD"
  | .commandTimeout => some "KUBEPLATE_COMMAND_TIMEOUT"
  | .left => some "KUBEPLATE_LEFT_DELIMITER"
  | .right => some "KUBEPLATE_RIGHT_DELIMITER"
  | .logJson => some "KUBEPLATE_LOG_JSON"
  | .template | .verbose | .help | .version => none

def Flag.isRepeatable : Flag → Bool
  | .template | .verbose => true
  | _ => false

def Flag.ofLong? (name : String) : Option Flag := Flag.all.find? fun f => f.longNames.contains name

def Flag.ofLetter? (c : Char) : Option Flag := Flag.all.find? fun f => f.letter? == some c

/-- Why a command line is not carried out. The last two are what it asks for. -/
inductive Stop
  | unknownArgument
  | invalidValue
  | valueValidation
  | argumentConflict
  | tooManyValues
  | displayHelp
  | displayVersion
deriving DecidableEq, Repr

def Stop.exitCode : Stop → Nat
  | .displayHelp | .displayVersion => 0
  | _ => 2

inductive FlagValue
  | given
  | truth (b : Bool)
  | text (s : String)
  | duration (d : Duration)
deriving DecidableEq, Repr

/-- Reads the value of a flag. A path is never empty. -/
def ValueKind.read (k : ValueKind) (s : String) : Except Stop FlagValue :=
  match k with
  | .path => if s.isEmpty then .error .invalidValue else .ok (.text s)
  | .text => .ok (.text s)
  | .duration =>
    match Duration.parse? s.toList with
    | some d => .ok (.duration d)
    | none => .error .valueValidation

def readTruth (s : String) : Except Stop FlagValue :=
  if s == "true" then .ok (.truth true)
  else if s == "false" then .ok (.truth false)
  else .error .invalidValue

end Stencil.CommandLine
