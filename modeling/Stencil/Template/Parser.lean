import Stencil.Text.Find

set_option autoImplicit false
set_option relaxedAutoImplicit false

/-!
Parsers for the template language. A choice is ordered: once an alternative succeeds, the ones after it
are never tried, also when the text cannot be continued behind it.
-/

namespace Stencil.Template

open Stencil.Text

/-- A parser yields a result and the text behind it, or fails. -/
abbrev Parser (α : Type) := StateT (List Char) Option α

namespace Parser

def fail {α : Type} : Parser α := fun _ => none

def literal (s : String) : Parser Unit := fun input => (Find.after? s.toList input).map ((), ·)

/-- Exactly the given text, which stands for a result. -/
def word {α : Type} (s : String) (result : α) : Parser α := do
  literal s
  pure result

def oneOf {α : Type} : List (Parser α) → Parser α
  | [] => fail
  | p :: ps => p <|> oneOf ps

def isLayout (c : Char) : Bool := c == ' ' || c == '\t' || c == '\r' || c == '\n'

def skip : Parser Unit := fun input => some ((), input.dropWhile isLayout)

def perhaps {α : Type} (p : Parser α) : Parser (Option α) := fun input =>
  match p input with
  | some (a, r) => some (some a, r)
  | none => some (none, input)

/-- As often as possible, as long as something is taken each time. -/
def many {α : Type} (p : Parser α) : Parser (List α) := fun input =>
  match p input with
  | none => some ([], input)
  | some (a, r) =>
    if r.length < input.length then (many p r).map fun m => (a :: m.1, m.2) else some ([a], r)
termination_by input => input.length

def manySkipping {α : Type} (p : Parser α) : Parser (List α) := many (do skip; p)

/-- A list with separators and layout around them, and perhaps a separator at the end. -/
def separated {α : Type} (p : Parser α) : Parser (List α) := do
  let first ← perhaps p
  match first with
  | none => pure []
  | some a =>
    let others ← manySkipping (do literal ","; skip; p)
    skip
    let _ ← perhaps (literal ",")
    pure (a :: others)

def isNameStart (c : Char) : Bool := c.isAlpha || c == '_'

def isNameChar (c : Char) : Bool := c.isAlphanum || c == '_'

/-- The longest run of characters of a kind, and at least one. -/
def run1 (p : Char → Bool) : Parser (List Char) := fun input =>
  match input with
  | c :: r => if p c then some (c :: r.takeWhile p, r.dropWhile p) else none
  | [] => none

def name : Parser (List Char) := fun input =>
  match input with
  | c :: r => if isNameStart c then some (c :: r.takeWhile isNameChar, r.dropWhile isNameChar) else none
  | [] => none

def nameString : Parser String := String.ofList <$> name

/-- The text up to the next occurrence of the given mark, which is taken too. -/
def upTo (mark : String) : Parser (List Char) := fun input => Find.cut? mark.toList input

/-- A text between quotes of one sort, which it cannot contain. -/
def quotedBy (mark : Char) : Parser (List Char) := fun input =>
  match input with
  | c :: r => if c = mark then Find.cut? [mark] r else none
  | [] => none

def quoted : Parser (List Char) := oneOf [quotedBy '"', quotedBy '\'', quotedBy '\x60']

def taken {α : Type} (p : Parser α) : Parser (List Char) := fun input =>
  (p input).map fun m => (input.take (input.length - m.2.length), m.2)

end Parser

end Stencil.Template
