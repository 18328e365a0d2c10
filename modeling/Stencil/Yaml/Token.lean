import Stencil.Yaml.Scalar

set_option autoImplicit false
set_option relaxedAutoImplicit false

/-!
The tokens of a YAML stream. Indentation turns into the tokens that begin and end collections, and a colon
tells only afterwards that what stands before it on its line is a key.
-/

namespace Stencil.Yaml

inductive Token
  | version (major minor : Nat)
  | handle (name pre : String)
  | documentStart
  | documentEnd
  | blockSequence
  | blockMapping
  | blockEnd
  | flowSequence
  | flowSequenceEnd
  | flowMapping
  | flowMappingEnd
  | blockEntry
  | flowEntry
  | key
  | value
  | alias (name : String)
  | anchor (name : String)
  | tag (handle suffix : String)
  | scalar (text : String) (isPlain : Bool)
deriving DecidableEq, Repr

/-- A place where a key may turn out to have begun: the number of tokens before it, and where it is. A
required one stands first on its line in a block. -/
structure Candidate where
  position : Nat
  required : Bool
  line : Nat
  column : Nat
  index : Nat

/-- The tokens read so far and what reading goes on with. Columns of enclosing blocks are `outer`; the first
of `candidates` belongs to the innermost flow. -/
structure Lexer where
  cursor : Cursor
  tokens : Array Token
  indent : Option Nat
  outer : List (Option Nat)
  candidates : List (Option Candidate)
  keyAllowed : Bool

namespace Lexer

def start (s : List Char) : Lexer := ⟨Cursor.start s, #[], none, [], [none], true⟩

def inFlow (l : Lexer) : Bool := 1 < l.candidates.length

def emit (l : Lexer) (t : Token) : Lexer := { l with tokens := l.tokens.push t }

def isDeeper (indent : Option Nat) (column : Nat) : Bool := indent.all (· < column)

/-- Begins a block at a column, unless one has begun there; its token goes to a position. -/
def openBlock (l : Lexer) (column position : Nat) (t : Token) : Lexer :=
  if !l.inFlow && isDeeper l.indent column then
    { l with
      indent := some column
      outer := l.indent :: l.outer
      tokens := l.tokens.insertIdxIfInBounds position t }
  else l

/-- Ends the blocks that are deeper than a column; none stands for the margin of the stream. -/
def closeBlocks (column : Option Nat) : Nat → Lexer → Lexer
  | 0, l => l
  | n + 1, l =>
    let deeper := match l.indent, column with
      | none, _ => false
      | some _, none => true
      | some i, some c => c < i
    if !l.inFlow && deeper then
      closeBlocks column n { l.emit .blockEnd with
        indent := l.outer.headD none
        outer := l.outer.drop 1 }
    else l

def unroll (l : Lexer) (column : Option Nat) : Lexer := closeBlocks column (l.outer.length + 1) l

/-- Gives up the key that may have begun, unless there must be one. -/
def dropCandidate (l : Lexer) : Option Lexer :=
  match l.candidates with
  | some c :: r => if c.required then none else some { l with candidates := none :: r }
  | _ => some l

def saveCandidate (l : Lexer) : Option Lexer :=
  if l.keyAllowed then do
    let dropped ← l.dropCandidate
    let c := l.cursor
    let candidate : Candidate :=
      ⟨l.tokens.size, !l.inFlow && l.indent == some c.column, c.line, c.column, c.index⟩
    some { dropped with candidates := some candidate :: l.candidates.drop 1 }
  else some l

def isStale (c : Cursor) (k : Candidate) : Bool := k.line < c.line || k.index + 1024 < c.index

def dropStale (l : Lexer) : Option Lexer :=
  if l.candidates.any fun k => k.any fun k => isStale l.cursor k && k.required then none
  else some { l with
    candidates := l.candidates.map fun k => k.filter fun k => !isStale l.cursor k }

/-- Goes on to the next token: past blanks, comments and line breaks. A key may begin on a new line. -/
def skipGap : Nat → Lexer → Lexer
  | 0, l => l
  | n + 1, l =>
    let c := if l.cursor.column == 0 && l.cursor.sees '\ufeff' then l.cursor.skip 1 else l.cursor
    let c := (c.takeWhile fun x => x == ' ' || (l.inFlow || !l.keyAllowed) && x == '\t').2
    let c := if c.sees '#' then (c.takeWhile (!isBreak ·)).2 else c
    if c.atBreak then
      skipGap n { l with cursor := c.takeBreak.2, keyAllowed := l.keyAllowed || !l.inFlow }
    else { l with cursor := c }

def emitMark (l : Lexer) (n : Nat) (t : Token) : Lexer := { l.emit t with cursor := l.cursor.skip n }

def documentMark (l : Lexer) (t : Token) : Option Lexer := do
  let l ← (l.unroll none).dropCandidate
  some ({ l with keyAllowed := false }.emitMark 3 t)

def beginFlow (l : Lexer) (t : Token) : Option Lexer := do
  let l ← l.saveCandidate
  some ({ l with candidates := none :: l.candidates, keyAllowed := true }.emitMark 1 t)

def endFlow (l : Lexer) (t : Token) : Option Lexer := do
  let l ← l.dropCandidate
  let candidates := if l.inFlow then l.candidates.drop 1 else l.candidates
  some ({ l with candidates := candidates, keyAllowed := false }.emitMark 1 t)

def flowEntry (l : Lexer) : Option Lexer := do
  let l ← l.dropCandidate
  some ({ l with keyAllowed := true }.emitMark 1 .flowEntry)

/-- The dash in front of an entry of a block sequence. -/
def blockEntry (l : Lexer) : Option Lexer := do
  let l ←
    if l.inFlow then some l
    else if l.keyAllowed then some (l.openBlock l.cursor.column l.tokens.size .blockSequence)
    else none
  let l ← l.dropCandidate
  some ({ l with keyAllowed := true }.emitMark 1 .blockEntry)

def explicitKey (l : Lexer) : Option Lexer := do
  let l ←
    if l.inFlow then some l
    else if l.keyAllowed then some (l.openBlock l.cursor.column l.tokens.size .blockMapping)
    else none
  let l ← l.dropCandidate
  some ({ l with keyAllowed := !l.inFlow }.emitMark 1 .key)

/-- The colon in front of a value. What may have been a key is one now. -/
def value (l : Lexer) : Option Lexer :=
  match l.candidates with
  | some k :: r =>
    let l := { l with
      tokens := l.tokens.insertIdxIfInBounds k.position .key
      candidates := none :: r
      keyAllowed := false }
    some ((l.openBlock k.column k.position .blockMapping).emitMark 1 .value)
  | _ =>
    if l.inFlow then some ({ l with keyAllowed := false }.emitMark 1 .value)
    else if l.keyAllowed then
      let l := l.openBlock l.cursor.column l.tokens.size .blockMapping
      some ({ l with keyAllowed := true }.emitMark 1 .value)
    else none

def isNameChar (c : Char) : Bool := c.isAlphanum || c == '-' || c == '_'

def name (c : Cursor) : String × Cursor :=
  let m := c.takeWhile isNameChar
  (String.ofList m.1, m.2)

def reference (l : Lexer) (make : String → Token) : Option Lexer := do
  let l ← l.saveCandidate
  let (n, c) := name (l.cursor.skip 1)
  let ends := c.blankAt 0 || c.rest.head?.any fun x => "?:,]\x7d%@\x60".toList.contains x
  if n.isEmpty || !ends then none
  else some ({ l with cursor := c, keyAllowed := false }.emit (make n))

/-- A character of a tag. In the short form the marks of flows end it. -/
def isTagChar (long : Bool) (x : Char) : Bool :=
  isNameChar x || ";/?:@&=+$.!~*'()%".toList.contains x
    || long && (x == ',' || x == '[' || x == ']')

/-- The text of a tag, in which a percent sign stands in front of the codes of bytes. -/
def tagText (long : Bool) (c : Cursor) : String × Cursor :=
  let m := c.takeWhile (isTagChar long)
  (String.ofList m.1, m.2)

/-- A tag: in angle brackets, with the handle of a family, or without one. -/
def tag (l : Lexer) : Option Lexer := do
  let l ← l.saveCandidate
  let c := l.cursor.skip 1
  let (t, c) ←
    if c.sees '<' then do
      let (s, c) := tagText true (c.skip 1)
      if s.isEmpty || !c.sees '>' then none else some (Token.tag "" s, c.skip 1)
    else
      let (n, after) := name c
      if after.sees '!' then do
        let (s, c) := tagText false (after.skip 1)
        if s.isEmpty then none else some (Token.tag ("!" ++ n ++ "!") s, c)
      else
        let (s, c) := tagText false c
        some (if s.isEmpty then Token.tag "" "!" else Token.tag "!" s, c)
  if c.blankAt 0 || l.inFlow && c.sees ',' then
    some ({ l with cursor := c, keyAllowed := false }.emit t)
  else none

def block (l : Lexer) (literal : Bool) : Option Lexer := do
  let l ← l.dropCandidate
  let (s, c) ← Scalar.block literal l.indent l.cursor
  some ({ l with cursor := c, keyAllowed := true }.emit (.scalar (String.ofList s) false))

def quoted (l : Lexer) (single : Bool) : Option Lexer := do
  let l ← l.saveCandidate
  let (s, c) ← Scalar.quoted single l.cursor
  some ({ l with cursor := c, keyAllowed := false }.emit (.scalar (String.ofList s) false))

def plain (l : Lexer) : Option Lexer := do
  let l ← l.saveCandidate
  let (s, broken, c) ← Scalar.plain l.inFlow ((l.indent.map (· + 1)).getD 0) l.cursor
  some ({ l with cursor := c, keyAllowed := broken }.emit (.scalar (String.ofList s) true))

/-- A directive: the version of the language, or the handle of a family of tags. -/
def directive (l : Lexer) : Option Lexer := do
  let l ← (l.unroll none).dropCandidate
  let (n, c) := name (l.cursor.skip 1)
  let skipBlanks (c : Cursor) : Cursor := (c.takeWhile isBlank).2
  let (t, c) ←
    if !c.blankAt 0 then none
    else if n == "YAML" then do
      let (major, c) := (skipBlanks c).takeWhile Char.isDigit
      let m ← Decimal.natural? major
      if c.sees '.' then
        let (minor, c) := (c.skip 1).takeWhile Char.isDigit
        (Decimal.natural? minor).map fun k => (Token.version m k, c)
      else none
    else if n == "TAG" then do
      let c := skipBlanks c
      let (h, c) ←
        if c.sees '!' then
          let (inner, c) := name (c.skip 1)
          if c.sees '!' then some ("!" ++ inner ++ "!", c.skip 1)
          else if inner.isEmpty then some ("!", c)
          else none
        else none
      if !c.atBlank then none
      else
        let (pre, c) := tagText true (skipBlanks c)
        if pre.isEmpty || !c.blankAt 0 then none else some (Token.handle h pre, c)
    else none
  let c := skipBlanks c
  let c := if c.sees '#' then (c.takeWhile (!isBreak ·)).2 else c
  if c.atEnd || c.atBreak then
    some ({ l with cursor := c.takeBreak.2, keyAllowed := false }.emit t)
  else none

/-- A character with which no plain text begins, unless what follows allows it. -/
def isIndicator (x : Char) : Bool := "-?:,[]\x7b\x7d#&*!|>'\"%@\x60".toList.contains x

/-- Reads the next token, which begins at the cursor. -/
def token (l : Lexer) : Option Lexer :=
  let c := l.cursor
  match c.rest.head? with
  | none => none
  | some x =>
    if c.column == 0 && x == '%' then l.directive
    else if c.atMark '-' then l.documentMark .documentStart
    else if c.atMark '.' then l.documentMark .documentEnd
    else if x == '[' then l.beginFlow .flowSequence
    else if x == '\x7b' then l.beginFlow .flowMapping
    else if x == ']' then l.endFlow .flowSequenceEnd
    else if x == '\x7d' then l.endFlow .flowMappingEnd
    else if x == ',' then l.flowEntry
    else if x == '-' && c.blankAt 1 then l.blockEntry
    else if x == '?' && (l.inFlow || c.blankAt 1) then l.explicitKey
    else if x == ':' && (l.inFlow || c.blankAt 1) then l.value
    else if x == '*' then l.reference .alias
    else if x == '&' then l.reference .anchor
    else if x == '!' then l.tag
    else if x == '|' && !l.inFlow then l.block true
    else if x == '>' && !l.inFlow then l.block false
    else if x == '\'' then l.quoted true
    else if x == '"' then l.quoted false
    else if !(c.blankAt 0 || isIndicator x) || x == '-' && !(c.peek 1).all isBlank
        || !l.inFlow && (x == '?' || x == ':') && !c.blankAt 1 then l.plain
    else none

def run : Nat → Lexer → Option (List Token)
  | 0, _ => none
  | n + 1, l => do
    let l ← (skipGap (l.cursor.rest.length + 1) l).dropStale
    let l := l.unroll (some l.cursor.column)
    if l.cursor.atEnd then
      let l ← (l.unroll none).dropCandidate
      some l.tokens.toList
    else run n (← l.token)

end Lexer

def Token.ofStream? (s : List Char) : Option (List Token) :=
  let s := if s.head? = some '\ufeff' then s.drop 1 else s
  if isReadable s then Lexer.run (s.length + 1) (Lexer.start s) else none

end Stencil.Yaml
