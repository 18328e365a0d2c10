import Stencil.Text.CharRanges
import Stencil.Text.CaseTable
import Stencil.Text.LetterTable

set_option autoImplicit false
set_option relaxedAutoImplicit false

/-!
Upper and lower case of a text by the full mappings of Unicode, and the capitals of its words.
-/

namespace Stencil.Text.Case

open Stencil.Text.CaseTable

/-- The image of a character under a mapping by runs and expansions; other characters stay. -/
def mapped (runs : List CaseRun) (expansions : List (Nat × List Nat)) (c : Char) : List Char :=
  match runs.findSome? (·.image? c.toNat) with
  | some code => [Char.ofNat code]
  | none =>
    match expansions.lookup c.toNat with
    | some codes => codes.map Char.ofNat
    | none => [c]

/-- The upper case of a character, which may be several characters. -/
def charUpper (c : Char) : List Char :=
  if c.toNat < 0x80 then [c.toUpper] else mapped upperRuns upperExpansions c

def charLower (c : Char) : List Char :=
  if c.toNat < 0x80 then [c.toLower] else mapped lowerRuns lowerExpansions c

/-- The first character that case mapping does not ignore is a cased one. -/
def nextIsCased (s : List Char) : Bool :=
  match s.dropWhile (CharRanges.contains caseIgnorable) with
  | [] => false
  | c :: _ => CharRanges.contains cased c

/-- Lower case, where `before` holds the characters already passed, the nearest one first.
A capital sigma that ends a word has a lower case of its own. -/
def lowerAfter : List Char → List Char → List Char
  | _, [] => []
  | before, c :: r =>
    let image :=
      if c = 'Σ' then
        if nextIsCased before && !nextIsCased r then ['ς'] else ['σ']
      else charLower c
    image ++ lowerAfter (c :: before) r

def upper (s : List Char) : List Char := s.flatMap charUpper

def lower (s : List Char) : List Char := lowerAfter [] s

def isLetter (c : Char) : Bool :=
  if c.toNat < 0x80 then c.isAlpha else CharRanges.contains LetterTable.alphabetic c

def isLetterOrDigit (c : Char) : Bool :=
  if c.toNat < 0x80 then c.isAlphanum
  else CharRanges.contains LetterTable.alphabetic c || CharRanges.contains LetterTable.numeric c

/-- Puts the letter that begins a word into upper case and leaves the rest alone. -/
def capitalsFrom : Bool → List Char → List Char
  | _, [] => []
  | atStart, c :: r =>
    (if atStart && isLetter c then charUpper c else [c])
      ++ capitalsFrom (!isLetterOrDigit c && c != '\'') r

/-- Gives every word a capital. A word consists of letters, digits and apostrophes. -/
def capitals (s : List Char) : List Char := capitalsFrom true s

end Stencil.Text.Case
