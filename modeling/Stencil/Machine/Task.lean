import Stencil.Machine.Program
import Stencil.Text.Find

set_option autoImplicit false
set_option relaxedAutoImplicit false

/-!
Pieces of programs that end with a result, and those that many programs are made of.
-/

namespace Stencil.Machine

open Stencil.Filesystem Stencil.Text

def Task (α : Type) : Type := (α → Program) → Program

namespace Task

instance : Monad Task where
  pure a := fun k => k a
  bind m f := fun k => m fun a => f a k

def ask {β : Type} (request : (β → Program) → Program) : Task β := request

def tell (request : Program → Program) : Task Unit := fun k => request (k ())

def halt {α : Type} (code : Nat) : Task α := fun _ => Program.exit code

def program (t : Task Nat) : Program := t Program.exit

def write (file : Nat) (bytes : List UInt8) : Task Bool := ask (Program.write file bytes)

def say (file : Nat) (s : String) : Task Unit := do
  let _ ← write file (Utf8.encode s)
  pure ()

def view : Task View := ask fun k => Program.files fun v => (v, k v)

def change (f : View → Except IoError View) : Task (Except IoError Unit) := ask fun k =>
  Program.files fun v =>
    match f v with
    | .ok w => (w, k (.ok ()))
    | .error e => (v, k (.error e))

def chunk : Nat := 4096

def patience : Nat := 1000000000

/-- All that comes from a file number, behind what came before, of which the latest piece stands first. -/
def readAllFrom (file : Nat) : Nat → List (List UInt8) → Task (Except IoError (List UInt8))
  | 0, done => pure (.ok done.reverse.flatten)
  | n + 1, done => do
    match ← ask (Program.read file chunk) with
    | .error e => pure (.error e)
    | .ok [] => pure (.ok done.reverse.flatten)
    | .ok bytes => readAllFrom file n (bytes :: done)

def readAll (file : Nat) : Task (Except IoError (List UInt8)) := readAllFrom file patience []

/-- Hands on what comes from a file number, piece by piece. -/
def copyFrom (source target : Nat) : Nat → Task (Except IoError Unit)
  | 0 => pure (.ok ())
  | n + 1 => do
    match ← ask (Program.read source chunk) with
    | .error e => pure (.error e)
    | .ok [] => pure (.ok ())
    | .ok bytes =>
      let _ ← write target bytes
      copyFrom source target n

/-- Does something with a file that is opened for it, or with the input where the name is a dash. -/
def withInput {α : Type} (name : String) (use : Nat → Task (Except IoError α)) : Task (Except IoError α) := do
  if name = "-" then use 0
  else
    match ← ask (Program.openFile name .reading) with
    | .error e => pure (.error e)
    | .ok file =>
      let r ← use file
      tell (Program.close file)
      pure r

def reason : IoError → String
  | .notFound => "No such file or directory"
  | .isADirectory => "Is a directory"
  | .notADirectory => "Not a directory"
  | .alreadyExists => "File exists"
  | .invalidFilename => "File name too long"
  | .filesystemLoop => "Too many levels of symbolic links"
  | .resourceBusy => "Device or resource busy"
  | .directoryNotEmpty => "Directory not empty"
  | .invalidInput => "Invalid argument"
  | .invalidData => "Invalid data"
  | .permissionDenied => "Permission denied"
  | .execFormat => "Exec format error"

end Task

/-- The lines of bytes, each with its end if it has one. -/
def linesOf (bytes : List UInt8) : List (List UInt8) :=
  (bytes.foldr (fun b (acc : List (List UInt8)) =>
    if b = 10 then [b] :: acc
    else match acc with
      | [] => [[b]]
      | l :: ls => (b :: l) :: ls) [])

def bare (line : List UInt8) : List UInt8 := if line.getLast? = some 10 then line.dropLast else line

end Stencil.Machine
