set_option autoImplicit false
set_option relaxedAutoImplicit false

/-!
Shell commands. Texts are lists of octets: characters below 256, each of which stands for a byte.
-/

namespace Stencil.Shell

abbrev Octets := List Char

/-- What is done with the value of a parameter. A form with a colon treats an empty value like a missing one. The
last one is a form that has no meaning. -/
inductive Adjustment
  | none
  | length
  | default (colon : Bool)
  | assign (colon : Bool)
  | demand (colon : Bool)
  | replace (colon : Bool)
  | dropFront (longest : Bool)
  | dropBack (longest : Bool)
  | unknown
deriving DecidableEq, Repr

inductive Direction
  | read
  | replace
  | append
  | both
  | copyIn
  | copyOut
  | document (id : Nat)
deriving DecidableEq, Repr

mutual

inductive Piece
  | plain (c : Char)
  | quoted (s : Octets)
  | parameter (name : Octets) (a : Adjustment) (operand : List Piece) (inQuotes : Bool)
  | command (body : Command) (inQuotes : Bool)
  | arithmetic (body : List Piece) (inQuotes : Bool)

inductive Redirection
  | mk (number : Nat) (direction : Direction) (target : List Piece)

/-- A command. The number of its line stands with what may fail. -/
inductive Command
  | simple (line : Nat) (assignments : List (Octets × List Piece)) (words : List (List Piece))
      (redirections : List Redirection)
  | nothing
  | sequence (a b : Command)
  | background (a : Command)
  | both (a b : Command)
  | either (a b : Command)
  | negated (a : Command)
  | pipeline (parts : List Command)
  | subshell (body : Command)
  | redirected (body : Command) (redirections : List Redirection)
  | choice (condition yes no : Command)
  | loop (untilTrue : Bool) (condition body : Command)
  | each (name : Octets) (words : Option (List (List Piece))) (body : Command)
  | branch (subject : List Piece) (arms : List (List (List Piece) × Command))
  | define (name : Octets) (body : Command)
  | malformed (line : Nat) (message : String)

end

instance : Inhabited Command := ⟨.nothing⟩

abbrev Word := List Piece

end Stencil.Shell
