import Stencil.Decimal.Integer
import Stencil.Yaml.Cursor

set_option autoImplicit false
set_option relaxedAutoImplicit false

/-!
The texts of a YAML stream: plain, between quotes, and in blocks. A line break inside a text becomes a space;
of several in a row the first one is dropped.
-/

namespace Stencil.Yaml.Scalar

open Stencil.Yaml

/-- Blanks between the words of a text: those on one line, or the first line break and the further ones. -/
inductive Gap
  | blanks (s : List Char)
  | breaks (first further : List Char)

def Gap.folded : Gap → List Char
  | .blanks s => s
  | .breaks ['\n'] [] => [' ']
  | .breaks ['\n'] further => further
  | .breaks first further => first ++ further

/-- The gap after a further blank or line break, if it is allowed there. -/
def Gap.extend (allowsTab : Cursor → Bool) (g : Gap) (c : Cursor) : Option (Gap × Cursor) :=
  if c.atBlank then
    match g with
    | .blanks s => some (.blanks (s ++ c.rest.take 1), c.skip 1)
    | .breaks _ _ => if c.sees '\t' && !allowsTab c then none else some (g, c.skip 1)
  else
    let (b, next) := c.takeBreak
    match g with
    | .blanks _ => some (.breaks b [], next)
    | .breaks first further => some (.breaks first (further ++ b), next)

def gap (allowsTab : Cursor → Bool) : Nat → Gap → Cursor → Option (Gap × Cursor)
  | 0, _, _ => none
  | n + 1, g, c =>
    if c.atBlank || c.atBreak then (g.extend allowsTab c).bind fun (g, c) => gap allowsTab n g c
    else some (g, c)

def plainEnds (inFlow : Bool) (c : Cursor) : Bool :=
  c.sees ':' && c.blankAt 1
    || inFlow && c.rest.head?.any fun x => x == ',' || x == '[' || x == ']' || x == '\x7b' || x == '\x7d'

/-- A colon in front of a mark of a flow is not allowed in a plain text. -/
def colonMisplaced (c : Cursor) : Bool :=
  c.sees ':' && (c.peek 1).any fun x =>
    x == ',' || x == '?' || x == '[' || x == ']' || x == '\x7b' || x == '\x7d'

def plainWord (inFlow : Bool) : Nat → Cursor → Option (List Char × Cursor)
  | 0, _ => none
  | n + 1, c =>
    if c.blankAt 0 then some ([], c)
    else if inFlow && colonMisplaced c then none
    else if plainEnds inFlow c then some ([], c)
    else (plainWord inFlow n (c.skip 1)).map fun (w, next) => (c.rest.take 1 ++ w, next)

/-- A plain text that continues a part already read, and whether it ends behind a line break. Its further
lines are indented at least to a column. -/
def plainFrom (inFlow : Bool) (indent : Nat) : Nat → List Char → Gap → Cursor →
    Option (List Char × Bool × Cursor)
  | 0, _, _, _ => none
  | n + 1, acc, g, c => do
    let brokenOff := match g with
      | .blanks _ => false
      | .breaks _ _ => true
    if c.atDocumentMark || c.sees '#' then some (acc, brokenOff, c)
    else
      let (word, next) ← plainWord inFlow (c.rest.length + 1) c
      let acc' := if word.isEmpty then acc else acc ++ g.folded ++ word
      let before := if word.isEmpty then g else .blanks []
      if !(next.atBlank || next.atBreak) then
        some (acc', word.isEmpty && brokenOff, next)
      else
        let (g, after) ← gap (fun k => indent ≤ k.column) (next.rest.length + 1) before next
        let brokenOff := match g with
          | .blanks _ => false
          | .breaks _ _ => true
        if !inFlow && after.column < indent then some (acc', brokenOff, after)
        else plainFrom inFlow indent n acc' g after

def plain (inFlow : Bool) (indent : Nat) (c : Cursor) : Option (List Char × Bool × Cursor) :=
  plainFrom inFlow indent (c.rest.length + 1) [] (.blanks []) c

/-- What a letter behind a backslash stands for, or how many digits of a code follow. -/
inductive Escape
  | char (c : Char)
  | code (digits : Nat)

def escape? (c : Char) : Option Escape :=
  match c with
  | '0' => some (.char '\x00')
  | 'a' => some (.char '\x07')
  | 'b' => some (.char '\x08')
  | 't' | '\t' => some (.char '\t')
  | 'n' => some (.char '\n')
  | 'v' => some (.char '\x0b')
  | 'f' => some (.char '\x0c')
  | 'r' => some (.char '\r')
  | 'e' => some (.char '\x1b')
  | ' ' => some (.char ' ')
  | '"' => some (.char '"')
  | '/' => some (.char '/')
  | '\\' => some (.char '\\')
  | 'N' => some (.char '\u0085')
  | '_' => some (.char '\u00a0')
  | 'L' => some (.char '\u2028')
  | 'P' => some (.char '\u2029')
  | 'x' => some (.code 2)
  | 'u' => some (.code 4)
  | 'U' => some (.code 8)
  | _ => none

/-- The character with a code given in hexadecimal digits. -/
def coded? (digits : List Char) (count : Nat) : Option Char := do
  let n ← if digits.length = count then Decimal.digits? 16 digits else none
  if h : n.isValidChar then some (Char.ofNatAux n h) else none

/-- A run of characters between quotes up to a blank or the closing quote; and whether a line break was
taken away by a backslash. -/
def quotedWord (single : Bool) : Nat → Cursor → Option (List Char × Bool × Cursor)
  | 0, _ => none
  | n + 1, c =>
    let more (s : List Char) (next : Cursor) : Option (List Char × Bool × Cursor) :=
      (quotedWord single n next).map fun (w, b, k) => (s ++ w, b, k)
    match c.rest with
    | [] => some ([], false, c)
    | x :: r =>
      if isBlank x || isBreak x then some ([], false, c)
      else if single then
        if x = '\'' then if r.head? = some '\'' then more ['\''] (c.skip 2) else some ([], false, c)
        else more [x] (c.skip 1)
      else if x = '"' then some ([], false, c)
      else if x = '\\' then
        match r with
        | [] => none
        | e :: _ =>
          if isBreak e then some ([], true, (c.skip 1).takeBreak.2)
          else
            match escape? e with
            | none => none
            | some (.char y) => more [y] (c.skip 2)
            | some (.code count) =>
              (coded? ((c.rest.drop 2).take count) count).bind fun y => more [y] (c.skip (2 + count))
      else more [x] (c.skip 1)

/-- A text between quotes from behind the opening one. -/
def quotedFrom (single : Bool) : Nat → Cursor → Option (List Char × Cursor)
  | 0, _ => none
  | n + 1, c =>
    if c.atDocumentMark || c.atEnd then none
    else do
      let (word, broken, next) ← quotedWord single (c.rest.length + 1) c
      if next.sees (if single then '\'' else '"') then some (word, next.skip 1)
      else if next.atEnd then none
      else
        let (g, after) ← gap (fun _ => true) (next.rest.length + 1)
          (if broken then .breaks [] [] else .blanks []) next
        let (others, last) ← quotedFrom single n after
        some (word ++ g.folded ++ others, last)

def quoted (single : Bool) (c : Cursor) : Option (List Char × Cursor) :=
  quotedFrom single (c.rest.length + 1) (c.skip 1)

/-- What happens to the line breaks at the end of a block. -/
inductive Chomping
  | strip
  | clip
  | keep

/-- The signs behind the mark of a block: what happens at its end, and how far it is indented. -/
def header (c : Cursor) : Option (Chomping × Option Nat × Cursor) :=
  let sign? (c : Cursor) : Option Chomping :=
    if c.sees '+' then some .keep else if c.sees '-' then some .strip else none
  let digit? (c : Cursor) : Option Nat :=
    (c.rest.head?.filter Char.isDigit).map fun x => x.toNat - 48
  let after (n : Option Nat) (c : Cursor) : Cursor := if n.isSome then c.skip 1 else c
  let found : Chomping × Option Nat × Cursor :=
    match sign? c with
    | some s => let d := digit? (c.skip 1); (s, d, after d (c.skip 1))
    | none =>
      let d := digit? c
      let c := after d c
      match (if d.isSome then sign? c else none) with
      | some s => (s, d, c.skip 1)
      | none => (.clip, d, c)
  if found.2.1 = some 0 then none
  else
    let c := (found.2.2.takeWhile isBlank).2
    let c := if c.sees '#' then (c.takeWhile (!isBreak ·)).2 else c
    if c.atEnd || c.atBreak then some (found.1, found.2.1, c.takeBreak.2) else none

/-- The line breaks in front of the next line of a block, and the greatest column of a line among them.
`indent` is the column of the block, if it is known. -/
def blockBreaks (indent : Option Nat) : Nat → Nat → Cursor → Option (List Char × Nat × Cursor)
  | 0, _, _ => none
  | n + 1, widest, c =>
    let room : Nat := (indent.map (· - c.column)).getD c.rest.length
    let spaces := (c.rest.takeWhile (· == ' ')).length
    let c := c.skip (min room spaces)
    let widest := max widest c.column
    if c.sees '\t' && indent.all (c.column < ·) then none
    else if c.atBreak then
      let (b, next) := c.takeBreak
      (blockBreaks indent n widest next).map fun (bs, w, k) => (b ++ bs, w, k)
    else some ([], widest, c)

/-- The lines of a block. `leading` is the line break in front, `breaks` those behind it, and `wasBlank` tells
whether the line before begins with a blank. -/
def blockLines (literal : Bool) (indent : Nat) : Nat → List Char → List Char → Bool → Cursor →
    Option (List Char × List Char × List Char × Cursor)
  | 0, _, _, _, _ => none
  | n + 1, leading, breaks, wasBlank, c =>
    if c.column = indent ∧ !c.atEnd then do
      let isBlankLine := c.atBlank
      let joint :=
        if !literal && leading == ['\n'] && !wasBlank && !isBlankLine then
          if breaks.isEmpty then [' '] else []
        else leading
      let (line, next) := c.takeWhile (!isBreak ·)
      let (b, next) := next.takeBreak
      let (further, _, after) ← blockBreaks (some indent) (next.rest.length + 1) 0 next
      let (text, leading', breaks', last) ← blockLines literal indent n b further isBlankLine after
      some (joint ++ breaks ++ line ++ text, leading', breaks', last)
    else some ([], leading, breaks, c)

/-- A text in a block, where `outer` is the column of what it belongs to, and none at the top. -/
def block (literal : Bool) (outer : Option Nat) (c : Cursor) : Option (List Char × Cursor) := do
  let (chomping, increment, c) ← header (c.skip 1)
  let known := increment.map fun d => outer.getD 0 + d
  let (breaks, widest, c) ← blockBreaks known (c.rest.length + 1) 0 c
  let least := max 1 ((outer.map (· + 1)).getD 0)
  let indent := known.getD (max widest least)
  let (text, leading, breaks, c) ← blockLines literal indent (c.rest.length + 1) [] breaks false c
  match chomping with
  | .strip => some (text, c)
  | .clip => some (text ++ leading, c)
  | .keep => some (text ++ leading ++ breaks, c)

end Stencil.Yaml.Scalar
