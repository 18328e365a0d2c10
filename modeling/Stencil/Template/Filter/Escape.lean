import Stencil.Template.Filter.Argument
import Stencil.Text.Blank
import Stencil.Text.Percent
import Stencil.Text.Romanized

set_option autoImplicit false
set_option relaxedAutoImplicit false

/-!
Filters that make a text safe for where it goes: markup, addresses, quotes and file names.
-/

namespace Stencil.Template.Filter

open Stencil.Json Stencil.Text

def markupChar (c : Char) : List Char :=
  if c = '&' then "&amp;".toList
  else if c = '<' then "&lt;".toList
  else if c = '>' then "&gt;".toList
  else if c = '"' then "&quot;".toList
  else if c = '\'' then "&#x27;".toList
  else if c = '/' then "&#x2F;".toList
  else [c]

/-- A character as it is written in strict markup, where the apostrophe has a name and the slash is plain. -/
def strictMarkupChar (c : Char) : List Char :=
  if c = '\'' then "&apos;".toList
  else if c = '/' then [c]
  else markupChar c

def slashedChar (c : Char) : List Char :=
  if c = '\\' ∨ c = '"' ∨ c = '\'' then ['\\', c] else [c]

def percentChar (c : Char) : List Char := (Utf8.encode (String.singleton c)).flatMap Percent.ofByte

def isPlainInAddress (c : Char) : Bool :=
  c.isAlphanum || c == '-' || c == '_' || c == '.' || c == '~' || c == '/' || c == '%'

/-- The text with percent signs for all characters but the plain ones. -/
def percentEncoded (plain : Char → Bool) (s : List Char) : List Char :=
  s.flatMap fun c => if plain c then [c] else percentChar c

/-- The text behind a comment of markup that begins here and stays on its line. -/
def afterComment? (s : List Char) : Option (List Char) := do
  let r ← Find.after? "<!--".toList s
  let (inside, r) ← Find.cut? "-->".toList r
  if inside.contains '\n' then none else some r

def afterTag? : List Char → Option (List Char)
  | '<' :: r => (Find.cut? ['>'] r).map (·.2)
  | _ => none

/-- The text without comments and tags of markup. -/
def untagged : Nat → List Char → List Char
  | 0, s => s
  | _, [] => []
  | n + 1, c :: r =>
    match (afterComment? (c :: r)).or (afterTag? (c :: r)) with
    | some r => untagged n r
    | none => c :: untagged n r

/-- The text without blanks between tags of markup. -/
def spaceless : List Char → List Char
  | [] => []
  | '>' :: r =>
    let rest := r.dropWhile Blank.isBlank
    if rest.head? = some '<' then '>' :: spaceless rest else '>' :: spaceless r
  | c :: r => c :: spaceless r
termination_by s => s.length
decreasing_by
  · have := (List.dropWhile_sublist Blank.isBlank (l := r)).length_le
    simp only [List.length_cons]
    omega
  all_goals simp

/-- The letters and digits of a character in a name for a file, in small letters, or a dash. -/
def slugChars (c : Char) : List Char :=
  if c.toNat < 0x80 then [if c.isAlphanum then c.toLower else '-']
  else (Romanized.spelling? c).getD ['-']

/-- The text without dashes at the beginning, at the end and next to another one. -/
def singleDashes : Bool → List Char → List Char
  | _, [] => []
  | dashed, c :: r =>
    if c = '-' then
      let rest := singleDashes true r
      if dashed || rest.isEmpty then rest else '-' :: rest
    else c :: singleDashes false r

def slug (s : List Char) : List Char := singleDashes true (s.flatMap slugChars)

def escapes : List (String × Filter) := [
  ("escape", onText "escape" (List.flatMap markupChar)),
  ("escape_xml", onText "escape_xml" (List.flatMap strictMarkupChar)),
  ("addslashes", onText "addslashes" (List.flatMap slashedChar)),
  ("urlencode", onText "urlencode" (percentEncoded isPlainInAddress)),
  ("urlencode_strict", onText "urlencode_strict" (percentEncoded Char.isAlphanum)),
  ("striptags", onText "striptags" fun s => untagged s.length s),
  ("spaceless", onText "spaceless" spaceless),
  ("slugify", onText "slugify" slug)]

end Stencil.Template.Filter
