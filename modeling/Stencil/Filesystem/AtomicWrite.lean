import Stencil.Decimal.Fixed
import Stencil.Filesystem.Access

set_option autoImplicit false
set_option relaxedAutoImplicit false

/-!
Writing a file that others may be reading. A file that exists is replaced as a whole, by a new one that was
written beside it; a file that does not exist is written directly. Any step may fail, and what the files were
after each step is kept.
-/

namespace Stencil.Filesystem

open Stencil.Text

/-- A step of writing a file. The first three are those for a file that does not exist. -/
inductive WriteStep
  | makeDirectories
  | create
  | fill
  | makeTemporary
  | writeTemporary
  | flush
  | synchronize
  | setMode
  | rename
deriving DecidableEq, Repr

structure WriteFailure where
  path : String
  error : IoError
deriving DecidableEq, Repr

/-- How writing went: the files before, those after each step that was done or given up and after cleaning up,
and the failure that ended it. -/
structure WriteRun where
  before : View
  after : List View
  failure? : Option WriteFailure

def WriteRun.view (r : WriteRun) : View := r.after.getLastD r.before

/-- A step together with the path that its failure is about. A step that fails may have got partway, stopped from
outside or stuck at the files themselves, and leaves something to clean up. -/
structure PlannedStep where
  step : WriteStep
  path : String
  act : View → Except IoError View
  partway : Nat → View → View := fun _ v => v
  stuck : View → View := id
  cleanUp : View → View := id

namespace AtomicWrite

/-- A failure that comes from outside, such as a full disk, and how far the step got before it. -/
structure Fault where
  error : IoError
  progress : Nat
deriving DecidableEq, Repr

/-- The steps that fail from outside while one file is written. -/
abbrev Outage := WriteStep → Option Fault

/-- What fails from outside while files are written one after another. -/
abbrev Faults := Nat → Outage

def noFaults : Faults := fun _ _ => none

def Faults.drop (n : Nat) (faults : Faults) : Faults := fun i => faults (i + n)

/-- What a step does to the files, or its failure with the files that it leaves. -/
def attempt (fails : Outage) (s : PlannedStep) (v : View) : Except (IoError × View) View :=
  match fails s.step with
  | some f => .error (f.error, s.partway f.progress v)
  | none => (s.act v).mapError fun e => (e, s.stuck v)

/-- Does steps in order up to the first that fails, which cleans up. -/
def run (fails : Outage) (v : View) : List PlannedStep → WriteRun
  | [] => ⟨v, [], none⟩
  | s :: rest =>
    match attempt fails s v with
    | .error (e, w) => ⟨v, [w, s.cleanUp w], some ⟨s.path, e⟩⟩
    | .ok w =>
      let r := run fails w rest
      ⟨v, w :: r.after, r.failure?⟩

def directoryOf (path : String) : String :=
  match Path.parent? path with
  | some p => if p.isEmpty then "." else p
  | none => "."

/-- Writes the beginning of a content to a file, as far as it can be written at all. -/
def writeSome (path : String) (content : List UInt8) (n : Nat) (v : View) : View :=
  match v.write path (content.take n) with
  | .ok w => w
  | .error _ => v

def directoriesFor (path : String) (v : View) : List View :=
  (v.directoriesMade ((directoryOf path).length + 1) (directoryOf path)).1

def directPlan (path : String) (content : List UInt8) : List PlannedStep :=
  let directory := directoryOf path
  [{ step := .makeDirectories, path := directory
     act := fun v => v.makeDirectories (directory.length + 1) directory
     partway := fun n v => ((directoriesFor path v).take n).getLastD v
     stuck := fun v => (directoriesFor path v).getLastD v },
    { step := .create, path := path, act := fun v => v.write path [] },
    { step := .fill, path := path, act := fun v => v.write path content
      partway := writeSome path content }]

def temporaryName (path : String) (n : Nat) : String :=
  "." ++ (Path.fileName? path).getD "" ++ "." ++ String.ofList (Decimal.padded 6 n)

/-- Something is under a name, if only a link that leads nowhere. -/
def isTaken (v : View) (path : String) : Bool :=
  match resolve v.tree v.working false path with
  | .ok (.entry _ _) => true
  | _ => false

/-- The path of a file beside another one, under a name that is not taken. -/
def temporaryPath (v : View) (path : String) : String :=
  let candidate (n : Nat) : String := Path.join (directoryOf path) (temporaryName path n)
  let n := (List.range (v.tree.entries.length + 1)).find? fun n => !isTaken v (candidate n)
  candidate (n.getD 0)

def privateMode : Nat := 0o600

def sharedMode : Nat := 0o644

def discard (path : String) (v : View) : View :=
  match v.remove path with
  | .ok w => w
  | .error _ => v

/-- The steps for a file that exists. Once the temporary file is there, every failure removes it. -/
def replacingPlan (temporary path : String) (content : List UInt8) : List PlannedStep :=
  [{ step := .makeTemporary, path := directoryOf path, act := fun v => v.createNew temporary privateMode },
    { step := .writeTemporary, path := temporary, act := fun v => v.write temporary content
      partway := writeSome temporary content, cleanUp := discard temporary },
    { step := .flush, path := temporary, act := .ok, cleanUp := discard temporary },
    { step := .synchronize, path := temporary, act := .ok, cleanUp := discard temporary },
    { step := .setMode, path := temporary, act := fun v => v.setMode temporary sharedMode
      cleanUp := discard temporary },
    { step := .rename, path := path, act := fun v => v.rename temporary path
      cleanUp := discard temporary }]

/-- Writes a file. Of the failures from outside, it meets those for the next file that is written. -/
def write (faults : Faults) (v : View) (path content : String) : WriteRun :=
  let bytes := Utf8.encode content
  if v.exists? path then run (faults 0) v (replacingPlan (temporaryPath v path) path bytes)
  else run (faults 0) v (directPlan path bytes)

end AtomicWrite

end Stencil.Filesystem
