import Stencil.Filesystem.Path
import Stencil.Text.Utf8

set_option autoImplicit false
set_option relaxedAutoImplicit false

/-!
Directories, files and symbolic links, each at the place that leads to it from the root; and how a path is
followed through them.
-/

namespace Stencil.Filesystem

open Stencil.Text

inductive IoError
  | notFound
  | isADirectory
  | notADirectory
  | alreadyExists
  | invalidFilename
  | filesystemLoop
  | resourceBusy
  | directoryNotEmpty
  | invalidInput
  | invalidData
  | permissionDenied
  | execFormat
deriving DecidableEq, Repr

/-- What is at a place. A sink takes everything and gives nothing. -/
inductive Entry
  | directory
  | file (mode : Nat) (content : List UInt8)
  | link (target : String)
  | sink
deriving DecidableEq, Repr

abbrev Place := List String

structure Tree where
  entries : List (Place × Entry)
deriving DecidableEq, Repr

namespace Tree

def get? (t : Tree) (p : Place) : Option Entry :=
  match p with
  | [] => some .directory
  | p => t.entries.lookup p

/-- Puts an entry at a place, in place of what is there. -/
def set (t : Tree) (p : Place) (e : Entry) : Tree :=
  if (t.entries.lookup p).isSome then
    ⟨t.entries.map fun m => if m.1 = p then (p, e) else m⟩
  else ⟨t.entries ++ [(p, e)]⟩

def erase (t : Tree) (p : Place) : Tree := ⟨t.entries.filter fun m => !p.isPrefixOf m.1⟩

def unlink (t : Tree) (p : Place) : Tree := ⟨t.entries.filter fun m => m.1 ≠ p⟩

def move (t : Tree) (source target : Place) : Tree :=
  ⟨(t.erase target).entries.map fun m =>
    if source.isPrefixOf m.1 then (target ++ m.1.drop source.length, m.2) else m⟩

def children (t : Tree) (p : Place) : List String :=
  t.entries.filterMap fun m => if m.1.dropLast = p ∧ m.1 ≠ [] then m.1.getLast? else none

end Tree

def nameLimit : Nat := 255

def pathLimit : Nat := 4096

def linkLimit : Nat := 40

/-- Where a path leads: to an entry, or to a free place in a directory that is there. The latter may be meant
for a directory. -/
inductive Found
  | entry (p : Place) (e : Entry)
  | free (p : Place) (forDirectory : Bool)
deriving DecidableEq, Repr

def namesOf (path : String) : List String := (Path.pieces path).filter (· != "")

def endsInSlash (path : String) : Bool := path.toList.getLast? == some '/'

/-- Follows names from a directory. Links on the way are followed, and one at the end if `last` says so; `jump` is
how one goes on from where a link leads. With `directory` the end must be a directory. -/
def followNames (t : Tree) (last : Bool) (jump : Place → Bool → List String → Except IoError Found)
    (here : Place) (directory : Bool) : List String → Except IoError Found
  | [] =>
    match t.get? here with
    | some .directory => .ok (.entry here .directory)
    | some e => if directory then .error .notADirectory else .ok (.entry here e)
    | none => .error .notFound
  | n :: rest =>
    if t.get? here ≠ some .directory then .error .notADirectory
    else if n = "." then followNames t last jump here directory rest
    else if n = ".." then followNames t last jump here.dropLast directory rest
    else if nameLimit < n.utf8ByteSize then .error .invalidFilename
    else
      let next := here ++ [n]
      match t.get? next with
      | none => if rest.isEmpty then .ok (.free next directory) else .error .notFound
      | some (.link target) =>
        if rest.isEmpty && !last && !directory then .ok (.entry next (.link target))
        else
          jump (if Path.isAbsolute target then [] else here)
            (directory || rest.isEmpty && endsInSlash target) (namesOf target ++ rest)
      | some _ => followNames t last jump next directory rest

/-- Follows names from a directory, and no more than so many links. -/
def follow (t : Tree) (last : Bool) : (links : Nat) → (here : Place) → (directory : Bool) →
    (names : List String) → Except IoError Found
  | 0 => followNames t last fun _ _ _ => .error .filesystemLoop
  | links + 1 => followNames t last (follow t last links)

def resolve (t : Tree) (working : Place) (last : Bool) (path : String) : Except IoError Found :=
  if '\x00' ∈ path.toList then .error .invalidInput
  else if path.isEmpty then .error .notFound
  else if pathLimit ≤ path.utf8ByteSize then .error .invalidFilename
  else
    follow t last linkLimit (if Path.isAbsolute path then [] else working) (endsInSlash path)
      (namesOf path)

def pathOf (p : Place) : String := "/" ++ "/".intercalate p

end Stencil.Filesystem
