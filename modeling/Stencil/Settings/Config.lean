import Stencil.Filesystem.Access
import Stencil.Settings.Descriptor
import Stencil.Template.Delimiter
import Stencil.Yaml.Node

set_option autoImplicit false
set_option relaxedAutoImplicit false

/-!
The settings of a run, put together from the command line, a settings file and fixed values, in this order.
-/

namespace Stencil.Settings

open Stencil.Text Stencil.Time Stencil.Filesystem

structure Access where
  inCluster : Bool
  kubeConfig : Option String
  master : Option String
deriving DecidableEq, Repr

/-- The settings of a run. A period of zero means that there is a single round. -/
structure Config where
  dryRun : Bool
  runOnce : Bool
  pollPeriod : Duration
  commandTimeout : Duration
  left : String
  right : String
  access : Access
  templates : List Descriptor
deriving DecidableEq, Repr

def Config.initial : Config where
  dryRun := false
  runOnce := false
  pollPeriod := ⟨15, 0⟩
  commandTimeout := ⟨10, 0⟩
  left := Template.Delimiters.usual.left
  right := Template.Delimiters.usual.right
  access := ⟨false, none, none⟩
  templates := []

def Config.polls (c : Config) : Bool := !c.pollPeriod.isZero

def Config.timeoutOf (c : Config) (d : Descriptor) : Duration := d.timeout.getD c.commandTimeout

def Config.delimiters (c : Config) : Template.Delimiters := ⟨c.left, c.right⟩

structure Inputs where
  configFile : Option String
  dryRun : Bool
  runOnce : Bool
  inCluster : Bool
  kubeConfig : Option String
  master : Option String
  pollPeriod : Option Duration
  commandTimeout : Option Duration
  left : Option String
  right : Option String
  templates : List String
deriving DecidableEq, Repr

inductive Side
  | left
  | right
deriving DecidableEq, Repr

def Side.name : Side → String
  | .left => "left"
  | .right => "right"

inductive ConfigFault
  | io (path : String) (error : IoError)
  | parse (path : String)
  | notFound (path : String)
  | invalidDescriptor (input : String) (cause : DescriptorFault)
  | emptyDelimiter (side : Side)
  | noTemplates
deriving DecidableEq, Repr

/-- The message of a fault. The first two are followed by what the file or its reader says. -/
def ConfigFault.message : ConfigFault → String
  | .io p _ => "I/O error at " ++ p
  | .parse p => "failed to parse config file " ++ p
  | .notFound p => "config file not found at " ++ p
  | .invalidDescriptor s c => "invalid template descriptor '" ++ s ++ "': " ++ c.reason
  | .emptyDelimiter side => "template " ++ side.name ++ " delimiter must not be empty"
  | .noTemplates => "no templates to process"

inductive Notice
  | deprecatedPollTime
  | unreadableDescriptor
  | incompleteDescriptor
  | repeatedTemplate
deriving DecidableEq, Repr

def Notice.level : Notice → String
  | .unreadableDescriptor => "ERROR"
  | _ => "WARN"

def Notice.message : Notice → String
  | .deprecatedPollTime => "'poll-time' parameter is deprecated, use 'poll-period' instead"
  | .unreadableDescriptor => "can't parse template descriptor"
  | .incompleteDescriptor => "skipped non-complete template descriptor in config file"
  | .repeatedTemplate => "template already added"

structure FileTemplate where
  path : Option String
  output : Option String
  command : Option String
  timeout : Option Duration
deriving DecidableEq, Repr

structure ConfigFile where
  master : Option String
  kubeConfig : Option String
  pollPeriod : Option Duration
  pollTime : Option Duration
  commandTimeout : Option Duration
  left : Option String
  right : Option String
  templates : List FileTemplate
deriving DecidableEq, Repr

def ConfigFile.empty : ConfigFile := ⟨none, none, none, none, none, none, none, []⟩

namespace ConfigFile

def text? (fields : List (String × Yaml.Node)) (name : String) : Option (Option String) := do
  match ← Yaml.Node.field? name fields with
  | none => some none
  | some x => x.optionalText?

def duration? (fields : List (String × Yaml.Node)) (name : String) : Option (Option Duration) := do
  match ← text? fields name with
  | none => some none
  | some s => (Duration.parse? s.toList).map some

def template? (x : Yaml.Node) : Option FileTemplate := do
  let fields ← x.fields?
  let path ← text? fields "path"
  let output ← text? fields "output"
  let command ← text? fields "command"
  let timeout ← duration? fields "command-timeout"
  some ⟨path, output, command, timeout⟩

/-- What a document says. Names that have no meaning are passed over. -/
def ofNode? (x : Yaml.Node) : Option ConfigFile := do
  let fields ← x.fields?
  let master ← text? fields "master"
  let kubeConfig ← text? fields "kube-config"
  let pollPeriod ← duration? fields "poll-period"
  let pollTime ← duration? fields "poll-time"
  let commandTimeout ← duration? fields "command-timeout"
  let left ← text? fields "left-delimiter"
  let right ← text? fields "right-delimiter"
  let templates ←
    match ← Yaml.Node.field? "templates" fields with
    | none => some []
    | some t => t.items?.bind fun xs => xs.mapM template?
  some ⟨master, kubeConfig, pollPeriod, pollTime, commandTimeout, left, right, templates⟩

/-- Reads a settings file. One that is blank says nothing. -/
def read (v : View) (path : String) : Except ConfigFault ConfigFile :=
  match v.readText path with
  | .error e => .error (.io path e)
  | .ok s =>
    if s.toList.all Blank.isBlank then .ok empty
    else
      match (Yaml.Node.ofDocument? s.toList).bind ofNode? with
      | some f => .ok f
      | none => .error (.parse path)

def usualNames : List String := ["kubeplate.yaml", "kubeplate.yml", "kubeplate.json"]

/-- The settings file to read: the one that is named, which must exist, or the first of the usual ones in a
directory. -/
def locate (v : View) (directory : String) (named : Option String) :
    Except ConfigFault (Option String) :=
  match named with
  | some path => if v.exists? path then .ok (some path) else .error (.notFound path)
  | none => .ok ((usualNames.map (Path.join directory)).find? v.isFile)

end ConfigFile

/-- The template that an entry of a settings file describes, if it names source and output. -/
def FileTemplate.descriptor? (t : FileTemplate) : Option Descriptor :=
  match t.path, t.output with
  | some source, some output => some ⟨source, output, t.command.bind fun c => commandOf c.toList, t.timeout⟩
  | _, _ => none

/-- A template that is listed, or what is noted in place of one. -/
abbrev Listed := Except Notice Descriptor

/-- The templates of command line and settings file. -/
def listed (inputs : Inputs) (file : ConfigFile) : List Listed :=
  (inputs.templates.map fun s => (Descriptor.parse s.toList).mapError fun _ => Notice.unreadableDescriptor)
    ++ file.templates.map fun t =>
      match t.descriptor? with
      | some d => .ok d
      | none => .error .incompleteDescriptor

/-- The templates in order, the first of each source, and what is noted about the others. -/
def collect : List Descriptor → List Listed → List Descriptor × List Notice
  | kept, [] => (kept, [])
  | kept, .error n :: r =>
    let (ds, ns) := collect kept r
    (ds, n :: ns)
  | kept, .ok d :: r =>
    if kept.any fun k => Path.same k.source d.source then
      let (ds, ns) := collect kept r
      (ds, .repeatedTemplate :: ns)
    else collect (kept ++ [d]) r

/-- The settings that follow from command line and settings file, and what is noted. -/
def merge (inputs : Inputs) (file : ConfigFile) : Except ConfigFault Config × List Notice :=
  let early := if file.pollPeriod.isNone && file.pollTime.isSome then [Notice.deprecatedPollTime] else []
  let left := (inputs.left.or file.left).getD Config.initial.left
  let right := (inputs.right.or file.right).getD Config.initial.right
  if left.isEmpty then (.error (.emptyDelimiter .left), early)
  else if right.isEmpty then (.error (.emptyDelimiter .right), early)
  else
    let (templates, notices) := collect [] (listed inputs file)
    if templates.isEmpty then (.error .noTemplates, early ++ notices)
    else
      let config : Config := {
        dryRun := inputs.dryRun
        runOnce := inputs.runOnce
        pollPeriod := (inputs.pollPeriod.or (file.pollPeriod.or file.pollTime)).getD
          Config.initial.pollPeriod
        commandTimeout := (inputs.commandTimeout.or file.commandTimeout).getD Config.initial.commandTimeout
        left := left
        right := right
        access := ⟨inputs.inCluster, inputs.kubeConfig.or file.kubeConfig, inputs.master.or file.master⟩
        templates := templates }
      (.ok config, early ++ notices)

/-- The settings of a run in a directory, and what is noted on the way. -/
def load (v : View) (directory : String) (inputs : Inputs) : Except ConfigFault Config × List Notice :=
  match ConfigFile.locate v directory inputs.configFile with
  | .error e => (.error e, [])
  | .ok none => merge inputs .empty
  | .ok (some path) =>
    match ConfigFile.read v path with
    | .error e => (.error e, [])
    | .ok file => merge inputs file

end Stencil.Settings
