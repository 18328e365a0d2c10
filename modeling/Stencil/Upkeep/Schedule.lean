import Stencil.Filesystem.Access
import Stencil.Time.Duration

set_option autoImplicit false
set_option relaxedAutoImplicit false

/-!
The commands that changes call for. A command runs once in a round, however many changes call for it, and the
first of them says how much time it has.
-/

namespace Stencil.Upkeep

open Stencil.Filesystem Stencil.Time

structure Scheduled where
  command : String
  limit : Duration
deriving DecidableEq, Repr

namespace Schedule

/-- The form of a command by which it is told from others, and in which it is run: the path without links and
relative parts if it names something that is there and this path is not too long, and otherwise the command as it
is. -/
def normalize (v : View) (command : String) : String :=
  match v.canonical command with
  | .ok path => path
  | .error _ => command

/-- Puts a command behind the others, unless it is among them. -/
def add (xs : List Scheduled) (x : Scheduled) : List Scheduled :=
  if xs.any fun y => y.command = x.command then xs else xs ++ [x]

def ofCalls (xs : List Scheduled) : List Scheduled := xs.foldl add []

end Schedule

end Stencil.Upkeep
