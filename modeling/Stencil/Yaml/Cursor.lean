import Stencil.Text.CharRanges

set_option autoImplicit false
set_option relaxedAutoImplicit false

/-!
A place in a YAML stream: the text behind it, its line and its column.
-/

namespace Stencil.Yaml

open Stencil.Text

def allowed : List (Nat × Nat) := [
  (0x9, 0xa), (0xd, 0xd), (0x20, 0x7e), (0x85, 0x85), (0xa0, 0xd7ff), (0xe000, 0xfefe),
  (0xff00, 0xfffd), (0x10000, 0x10ffff)]

def isReadable (s : List Char) : Bool := s.all (CharRanges.contains allowed)

def isBreak (c : Char) : Bool :=
  c == '\n' || c == '\r' || c == '\u0085' || c == '\u2028' || c == '\u2029'

def isBlank (c : Char) : Bool := c == ' ' || c == '\t'

structure Cursor where
  rest : List Char
  index : Nat
  line : Nat
  column : Nat

namespace Cursor

def start (s : List Char) : Cursor := ⟨s, 0, 0, 0⟩

def peek (c : Cursor) (n : Nat) : Option Char := c.rest[n]?

def sees (c : Cursor) (x : Char) : Bool := c.rest.head? == some x

def atEnd (c : Cursor) : Bool := c.rest.isEmpty

def atBlank (c : Cursor) : Bool := c.rest.head?.any isBlank

def atBreak (c : Cursor) : Bool := c.rest.head?.any isBreak

/-- At a distance there is a blank, a line break or the end. -/
def blankAt (c : Cursor) (n : Nat) : Bool :=
  match c.peek n with
  | none => true
  | some x => isBlank x || isBreak x

def skip (c : Cursor) (n : Nat) : Cursor :=
  { c with rest := c.rest.drop n, index := c.index + n, column := c.column + n }

/-- The place behind a line break, and the break as it is kept. A pair of carriage return and line feed is
one break. -/
def takeBreak (c : Cursor) : List Char × Cursor :=
  let next (n : Nat) : Cursor := ⟨c.rest.drop n, c.index + n, c.line + 1, 0⟩
  match c.rest with
  | '\r' :: '\n' :: _ => (['\n'], next 2)
  | x :: _ =>
    if !isBreak x then ([], c)
    else if x = '\u2028' ∨ x = '\u2029' then ([x], next 1)
    else (['\n'], next 1)
  | [] => ([], c)

/-- The place behind characters of a sort on this line, and those characters. -/
def takeWhile (c : Cursor) (p : Char → Bool) : List Char × Cursor :=
  let taken := c.rest.takeWhile p
  (taken, c.skip taken.length)

/-- A line begins here with the mark of a document: three times the same character and a blank. -/
def atMark (c : Cursor) (x : Char) : Bool :=
  c.column == 0 && c.rest.take 3 == [x, x, x] && c.blankAt 3

def atDocumentMark (c : Cursor) : Bool := c.atMark '-' || c.atMark '.'

end Cursor

end Stencil.Yaml
