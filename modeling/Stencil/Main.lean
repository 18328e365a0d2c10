import Stencil.CommandLine.Session
import Stencil.Machine.Utility

set_option autoImplicit false
set_option relaxedAutoImplicit false

/-!
The program: it takes a run from its arguments to its end on the files below the working directory. They are
read before each stretch of the run, and what has changed is written back after it. No cluster is within reach.
-/

namespace Stencil.Service

open Stencil.Cluster Stencil.CommandLine Stencil.Filesystem Stencil.Machine Stencil.Upkeep

def environmentNames : List String := ["HOME", "PATH"] ++ Flag.all.filterMap Flag.inEnvironment?

/-- Adds a file, or a directory with all below it. -/
partial def gather (t : Tree) (e : IO.FS.DirEntry) : IO Tree := do
  let place := namesOf e.path.toString
  match (← e.path.symlinkMetadata).type with
  | .dir => (← e.path.readDir).foldlM gather (t.set place .directory)
  | .file => pure (t.set place (.file 0o644 (← IO.FS.readBinFile e.path).toList))
  | .symlink => pure (t.set place (.link (← IO.FS.realPath e.path).toString))
  | .other => pure t

/-- What is there besides the files below the working directory. -/
def surroundings : Tree :=
  let t := (Tree.mk []).set ["dev"] .directory |>.set ["usr"] .directory |>.set ["usr", "bin"] .directory
  let t := t.set ["dev", "null"] .sink |>.set ["bin"] (.link "usr/bin")
  Utility.install t ["usr", "bin"]

def allFiles : IO Tree := do
  let here ← IO.currentDir
  let place := namesOf here.toString
  let above := (List.range (place.length + 1)).foldl (fun t n => t.set (place.take n) .directory) surroundings
  (← here.readDir).foldlM gather above

def writeBack (before after : Tree) : IO Unit := do
  for (place, entry) in after.entries do
    if before.get? place ≠ some entry then
      match entry with
      | .directory => IO.FS.createDirAll (pathOf place)
      | .file _ content => IO.FS.writeBinFile (pathOf place) ⟨content.toArray⟩
      | _ => pure ()
  for (place, entry) in before.entries.reverse do
    if (after.get? place).isNone then
      match entry with
      | .directory => IO.FS.removeDirAll (pathOf place)
      | _ => IO.FS.removeFile (pathOf place)

def stretch : Nat := 1000

/-- Goes on with a run, stretch by stretch, to its end, and tells the exit code. -/
partial def proceed (s : Session) (x : Site Unit) : IO UInt32 := do
  let before ← allFiles
  let (_, s, y) := (Session.actor Server.unreachable).runFor (fun m => m.1.isOver) (stretch * 1000000)
    (s, (x.withTree before))
  IO.print y.printed
  (← IO.getStdout).flush
  writeBack before y.host.tree
  match s with
  | .over ending fatal? =>
    if let some f := fatal? then IO.eprintln ("Error: " ++ f.context ++ "\n\nCaused by:\n    " ++ f.cause)
    pure (UInt32.ofNat ending.number)
  | s =>
    IO.sleep (UInt32.ofNat stretch)
    proceed s { y with printed := "" }

end Stencil.Service

/-- Runs the program with its arguments. -/
def main (args : List String) : IO UInt32 := do
  let environment ← Stencil.Service.environmentNames.filterMapM fun name => do
    pure ((← IO.getEnv name).map (name, ·))
  let here ← IO.currentDir
  let tree ← Stencil.Service.allFiles
  let seconds := (← IO.monoNanosNow) / 1000000000
  let x : Stencil.Upkeep.Site Unit :=
    ⟨Stencil.Machine.Host.start tree, Stencil.Filesystem.namesOf here.toString, environment, seconds, (), ""⟩
  let (s, x) := Stencil.CommandLine.Session.start Stencil.Cluster.Server.unreachable args x
  Stencil.Service.proceed s x
