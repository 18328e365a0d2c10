import Stencil.Filesystem.Access
import Stencil.Machine.Signal

set_option autoImplicit false
set_option relaxedAutoImplicit false

/-!
What a process does, as a tree of requests to the machine: each request stands with what follows on every reply
to it.
-/

namespace Stencil.Machine

open Stencil.Filesystem

inductive OpenMode
  | reading
  | replacing
  | appending
deriving DecidableEq, Repr

inductive Disposition
  | usual
  | ignored
  | noted
deriving DecidableEq, Repr

inductive Awaited
  | ended (pid : Nat) (ending : Ending)
  | noChild
  | interrupted

/-- What a process does next. Files are reached through numbers that belong to the process. A child gets its
number; so does the parent. -/
inductive Program
  | finish (ending : Ending)
  | pause (nanoseconds : Nat) (next : Program)
  | fork (child : Nat → Program) (next : Nat → Program)
  | await (pid : Nat) (interruptible : Bool) (next : Awaited → Program)
  | pipe (next : Nat → Nat → Program)
  | openFile (path : String) (mode : OpenMode) (next : Except IoError Nat → Program)
  | read (file limit : Nat) (next : Except IoError (List UInt8) → Program)
  | write (file : Nat) (bytes : List UInt8) (next : Bool → Program)
  | duplicate (source target : Nat) (next : Bool → Program)
  | close (file : Nat) (next : Program)
  | send (target : Int) (signal : Nat) (next : Bool → Program)
  | arrange (signal : Nat) (d : Disposition) (next : Program)
  | noted (next : List Nat → Program)
  | files (act : View → View × Program)
  | lead (next : Program)

namespace Program

def exit (n : Nat) : Program := .finish (.code (n % 256))

def emit (file : Nat) (bytes : List UInt8) (code : Nat) : Program :=
  .write file bytes fun ok => exit (if ok then code else 1)

end Program

end Stencil.Machine
