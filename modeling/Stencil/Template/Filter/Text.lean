import Stencil.Template.Filter.Argument
import Stencil.Text.Blank
import Stencil.Text.Case
import Stencil.Text.Cluster
import Stencil.Text.WordTable

set_option autoImplicit false
set_option relaxedAutoImplicit false

/-!
Filters on texts: case, blanks, lines and parts.
-/

namespace Stencil.Template.Filter

open Stencil.Json Stencil.Text

/-- The text with its first character in upper case and the others in lower case. -/
def capitalized : List Char → List Char
  | [] => []
  | c :: r => Case.charUpper c ++ Case.lower r

/-- A character of a word: a letter, mark, digit or connector, or an apostrophe. -/
def isWordChar (c : Char) : Bool :=
  Case.isLetter c || CharRanges.contains WordTable.beyondLetters c

/-- The text with the first character of every word in upper case and the others in lower case. A word begins
with no apostrophe, and ends with none. -/
def titled (s : List Char) : List Char :=
  match _h : s with
  | [] => []
  | c :: r =>
    if isWordChar c then
      let run := r.takeWhile fun d => isWordChar d || d == '\''
      let apostrophes := run.reverse.takeWhile (· == '\'')
      let rest := run.take (run.length - apostrophes.length)
      Case.charUpper c ++ Case.lower rest ++ apostrophes
        ++ titled (r.dropWhile fun d => isWordChar d || d == '\'')
    else c :: titled r
termination_by s.length
decreasing_by
  · have := (List.dropWhile_sublist (fun d => isWordChar d || d == '\'') (l := r)).length_le
    simp only [List.length_cons]
    omega
  · simp

/-- The text without any number of copies of another one at its beginning. -/
def withoutLeading (copy s : List Char) : List Char :=
  match copy with
  | [] => s
  | c :: copy =>
    match _h : Find.after? (c :: copy) s with
    | none => s
    | some r => withoutLeading (c :: copy) r
termination_by s.length
decreasing_by
  rw [Find.eq_append_of_after? _h]
  simp only [List.length_append, List.length_cons]
  omega

/-- The text without any number of copies of another one at its end. -/
def withoutTrailing (copy s : List Char) : List Char :=
  (withoutLeading copy.reverse s.reverse).reverse

def lines (s : List Char) : List (List Char) :=
  let parts := Find.splitBy ['\n'] s
  let parts := if parts.getLast? = some [] then parts.dropLast else parts
  parts.map fun l => if l.getLast? = some '\r' then l.dropLast else l

/-- The first clusters of a text and an ending, when the text has more of them. -/
def truncate : Filter := fun v args => do
  let s ← input "truncate" chars? v
  let length ← argument? "truncate" "length" Data.count? args
  let ending ← argument? "truncate" "end" chars? args
  let clusters := Cluster.clusters s
  let length := length.getD 255
  pure (ofChars (if clusters.length ≤ length then s
    else (clusters.take length).flatten ++ ending.getD ['…']))

def wordCount : Filter := fun v _ => do
  let s ← input "wordcount" chars? v
  pure (.ofNat (Blank.words s).length)

def replace : Filter := fun v args => do
  let s ← input "replace" chars? v
  let source ← argument "replace" "from" chars? args
  let target ← argument "replace" "to" chars? args
  pure (ofChars (Find.replaceAll source target s))

/-- The text without copies of a part at its beginning. -/
def trimStartMatches : Filter := fun v args => do
  let s ← input "trim_start_matches" chars? v
  let copy ← argument "trim_start_matches" "pat" chars? args
  pure (ofChars (withoutLeading copy s))

def trimEndMatches : Filter := fun v args => do
  let s ← input "trim_end_matches" chars? v
  let copy ← argument "trim_end_matches" "pat" chars? args
  pure (ofChars (withoutTrailing copy s))

def split : Filter := fun v args => do
  let s ← input "split" chars? v
  let separator ← argument "split" "pat" chars? args
  pure (.arr ((Find.splitBy separator s).map ofChars))

/-- The text with a beginning put in front of its lines; the first line and blank ones only on demand. -/
def indent : Filter := fun v args => do
  let s ← input "indent" chars? v
  let beginning ← argument? "indent" "prefix" chars? args
  let first ← argument? "indent" "first" Value.bool? args
  let blank ← argument? "indent" "blank" Value.bool? args
  let beginning := beginning.getD (List.replicate 4 ' ')
  let others (l : List Char) : List Char :=
    if blank.getD false || !(Blank.trimStart l).isEmpty then beginning ++ l else l
  pure (ofChars (match lines s with
    | [] => []
    | l :: r => List.intercalate ['\n'] ((if first.getD false then beginning ++ l else l) :: r.map others)))

def lineTags (s : List Char) : List Char :=
  Find.replaceAll ['\n'] "<br>".toList (Find.replaceAll ['\r', '\n'] "<br>".toList s)

/-- A filter of the table below that refuses what is not a text in words of its own. -/
def onStrictText (name : String) (f : List Char → List Char) : Filter := fun v _ =>
  match v with
  | .str s => .ok (ofChars (f s.toList))
  | v => .error (.notText name v)

def texts : List (String × Filter) := [
  ("toLower", onStrictText "toLower" Case.lower),
  ("toUpper", onStrictText "toUpper" Case.upper),
  ("toTitle", onStrictText "toTitle" Case.capitals),
  ("trimSpace", onStrictText "trimSpace" Blank.trim),
  ("upper", onText "upper" Case.upper),
  ("lower", onText "lower" Case.lower),
  ("capitalize", onText "capitalize" capitalized),
  ("title", onText "title" titled),
  ("trim", onText "trim" Blank.trim),
  ("trim_start", onText "trim_start" Blank.trimStart),
  ("trim_end", onText "trim_end" Blank.trimEnd),
  ("linebreaksbr", onText "linebreaksbr" lineTags),
  ("trim_start_matches", trimStartMatches),
  ("trim_end_matches", trimEndMatches),
  ("truncate", truncate),
  ("wordcount", wordCount),
  ("replace", replace),
  ("split", split),
  ("indent", indent)]

end Stencil.Template.Filter
