import Stencil.Filesystem.Tree

set_option autoImplicit false
set_option relaxedAutoImplicit false

/-!
Operations on files by their paths, seen from a working directory.
-/

namespace Stencil.Filesystem

open Stencil.Text

/-- Files, and the directory that relative paths start from. -/
structure View where
  tree : Tree
  working : Place
deriving DecidableEq, Repr

namespace View

def entry (v : View) (path : String) : Except IoError (Place × Entry) :=
  match resolve v.tree v.working true path with
  | .ok (.entry p e) => .ok (p, e)
  | .ok (.free _ _) => .error .notFound
  | .error e => .error e

def exists? (v : View) (path : String) : Bool := (v.entry path).isOk

def isFile (v : View) (path : String) : Bool :=
  match v.entry path with
  | .ok (_, .file _ _) => true
  | _ => false

def isDirectory (v : View) (path : String) : Bool :=
  match v.entry path with
  | .ok (_, .directory) => true
  | _ => false

/-- The path without links and relative parts, unless that is too long. -/
def canonical (v : View) (path : String) : Except IoError String :=
  match v.entry path with
  | .ok (p, _) => if pathLimit ≤ (pathOf p).utf8ByteSize then .error .invalidFilename else .ok (pathOf p)
  | .error e => .error e

def readBytes (v : View) (path : String) : Except IoError (List UInt8) :=
  match v.entry path with
  | .ok (_, .file _ content) => .ok content
  | .ok (_, .sink) => .ok []
  | .ok _ => .error .isADirectory
  | .error e => .error e

def readText (v : View) (path : String) : Except IoError String :=
  match v.readBytes path with
  | .ok bytes =>
    match Utf8.decode? bytes with
    | some s => .ok s
    | none => .error .invalidData
  | .error e => .error e

def withoutSlashes (path : String) : String :=
  String.ofList (path.toList.reverse.dropWhile (· == '/')).reverse

/-- The place of a file to write to, with its mode and content. A file that is not there is made, when its
directory is. -/
def openForWriting (v : View) (path : String) : Except IoError (Place × Entry) :=
  match resolve v.tree v.working true path with
  | .ok (.entry _ .directory) => .error .isADirectory
  | .ok (.entry p e) => .ok (p, e)
  | .ok (.free p false) => .ok (p, .file 0o644 [])
  | .ok (.free _ true) => .error .isADirectory
  | .error e =>
    if endsInSlash path && e = .notADirectory && v.exists? (withoutSlashes path) then .error .isADirectory
    else .error e

/-- Writes a file anew. A new file can be read by all and written by its owner. -/
def write (v : View) (path : String) (content : List UInt8) : Except IoError View :=
  (v.openForWriting path).map fun
    | (p, .file mode _) => { v with tree := v.tree.set p (.file mode content) }
    | (_, _) => v

/-- Makes an empty file with permissions of its own. There must be nothing under its name, not even a link that
leads nowhere. -/
def createNew (v : View) (path : String) (mode : Nat) : Except IoError View :=
  match resolve v.tree v.working false path with
  | .ok (.free p false) => .ok { v with tree := v.tree.set p (.file mode []) }
  | .ok (.free _ true) => .error .isADirectory
  | .ok (.entry _ _) => .error .alreadyExists
  | .error e => .error e

def makeDirectory (v : View) (path : String) : Except IoError View :=
  match resolve v.tree v.working false path with
  | .ok (.free p _) => .ok { v with tree := v.tree.set p .directory }
  | .ok (.entry _ _) => .error .alreadyExists
  | .error e => .error e

/-- The files after each directory that is made on the way to making one, those above it that are missing
first, and the failure that ended this. What was made before a failure stays. -/
def directoriesMade (fuel : Nat) (v : View) (path : String) : List View × Option IoError :=
  match fuel with
  | 0 => ([], some .notFound)
  | fuel + 1 =>
    if path.isEmpty then ([], none)
    else
      match v.makeDirectory path with
      | .ok w => ([w], none)
      | .error .notFound =>
        match Path.parent? path with
        | none => ([], some .notFound)
        | some parent =>
          match directoriesMade fuel v parent with
          | (made, some e) => (made, some e)
          | (made, none) =>
            let w := made.getLastD v
            match w.makeDirectory path with
            | .ok u => (made ++ [u], none)
            | .error e => (made, if w.isDirectory path then none else some e)
      | .error e => ([], if v.isDirectory path then none else some e)

/-- Makes a directory and those above it that are missing. -/
def makeDirectories (fuel : Nat) (v : View) (path : String) : Except IoError View :=
  match v.directoriesMade fuel path with
  | (made, none) => .ok (made.getLastD v)
  | (_, some e) => .error e

def makeLink (v : View) (path target : String) : Except IoError View :=
  if target.toList.contains '\x00' then .error .invalidInput
  else if target.isEmpty then .error .notFound
  else
    match resolve v.tree v.working false path with
    | .ok (.free p false) => .ok { v with tree := v.tree.set p (.link target) }
    | .ok (.free _ true) => .error .notFound
    | .ok (.entry _ _) => .error .alreadyExists
    | .error e => .error e

/-- Gives a file other permissions. Those of directories are not kept. -/
def setMode (v : View) (path : String) (mode : Nat) : Except IoError View :=
  (v.entry path).map fun
    | (p, .file _ content) => { v with tree := v.tree.set p (.file mode content) }
    | _ => v

/-- Removes a file, a link, or a directory with all in it. -/
def remove (v : View) (path : String) : Except IoError View :=
  match resolve v.tree v.working false path with
  | .ok (.entry p .directory) => .ok { v with tree := v.tree.erase p }
  | .ok (.entry p _) => .ok { v with tree := v.tree.unlink p }
  | .ok (.free _ _) => .error .notFound
  | .error e => .error e

/-- The last name on a path stands for a directory itself or the one above. -/
def endsInDots (path : String) : Bool :=
  match (namesOf path).getLast? with
  | none => true
  | some n => n == "." || n == ".."

/-- Puts a file or link in place of what a path names. A link is replaced itself. -/
def rename (v : View) (source target : String) : Except IoError View :=
  if endsInDots source || endsInDots target then
    match resolve v.tree v.working false target with
    | .ok _ => .error .resourceBusy
    | .error e => .error e
  else
    match resolve v.tree v.working false source, resolve v.tree v.working false target with
    | .error e, _ => .error e
    | .ok (.free _ _), _ => .error .notFound
    | _, .error e => .error e
    | .ok (.entry p e), .ok found =>
      let (q, occupied, slashed) := match found with
        | .entry q f => (q, some f, endsInSlash target)
        | .free q slashed => (q, none, slashed)
      if p = q then .ok v
      else
        match e, occupied with
        | .directory, some .directory =>
          if p.isPrefixOf q then .error .invalidInput
          else if (v.tree.children q).isEmpty then .ok { v with tree := v.tree.move p q }
          else .error .directoryNotEmpty
        | .directory, some _ => .error .notADirectory
        | .directory, none =>
          if p.isPrefixOf q then .error .invalidInput else .ok { v with tree := v.tree.move p q }
        | _, some .directory => if slashed then .error .notADirectory else .error .isADirectory
        | _, _ =>
          if slashed then .error .notADirectory
          else .ok { v with tree := (v.tree.unlink p).set q e }

end View

end Stencil.Filesystem
