import Stencil.Shell.Syntax

set_option autoImplicit false
set_option relaxedAutoImplicit false

/-!
Reading shell commands. A text is read one line of commands at a time, so that what stands before a mistake is
still carried out.
-/

namespace Stencil.Shell

/-- A document that a line announces and the following lines hold. -/
structure Announced where
  id : Nat
  delimiter : Octets
  stripsTabs : Bool
  expands : Bool

/-- How far reading has come. A line is told by the number of the first one and by how many ends of lines are no
longer among what is left. -/
structure Source where
  rest : Octets
  first : Nat
  ends : Nat
  announced : List Announced
  documents : List (Nat × Word)
  fresh : Nat

def lineEnds (s : Octets) : Nat := s.count '\n'

def Source.line (s : Source) : Nat := s.first + s.ends - lineEnds s.rest

def Source.within (s : Source) (text : Octets) : Source :=
  { s with rest := text, first := s.line, ends := lineEnds text }

/-- A reader of a part of the text, or the number of a line with a message. -/
abbrev Parser (α : Type) := StateT Source (Except (Nat × String)) α

namespace Parser

def stop {α : Type} (message : String) : Parser α := fun s => .error (s.line, message)

def fail {α : Type} (message : String) : Parser α := stop ("Syntax error: " ++ message)

def rest : Parser Octets := do pure (← get).rest

def drop (n : Nat) : Parser Unit := modify fun s => { s with rest := s.rest.drop n }

def sees (s : String) : Parser Bool := do pure (s.toList.isPrefixOf (← rest))

/-- Takes these characters, if the text goes on with them. -/
def accept (s : String) : Parser Bool := do
  if ← sees s then
    drop s.length
    pure true
  else pure false

def isBlank (c : Char) : Bool := c == ' ' || c == '\t'

def isBreak (c : Char) : Bool := isBlank c || ['\n', ';', '&', '|', '<', '>', '(', ')'].contains c

def isNameStart (c : Char) : Bool := c.isAlpha || c == '_'

def isNameChar (c : Char) : Bool := c.isAlphanum || c == '_'

def isName (s : Octets) : Bool := s.head?.any isNameStart && s.all isNameChar

/-- The text behind blanks, joined lines and a comment. -/
def behindBlanks : Nat → Octets → Octets
  | 0, s => s
  | n + 1, s =>
    match s with
    | '\\' :: '\n' :: r => behindBlanks n r
    | '#' :: r => r.dropWhile (· ≠ '\n')
    | c :: r => if isBlank c then behindBlanks n r else s
    | [] => []

def skipBlanks : Parser Unit := modify fun s => { s with rest := behindBlanks (s.rest.length + 1) s.rest }

/-- The words with a meaning of their own where a command may begin. -/
def reservedWords : List String := [
  "if", "then", "else", "elif", "fi", "for", "in", "do", "done", "while", "until", "case", "esac",
  "\x7b", "\x7d", "!"]

def reserved : Parser (Option String) := do
  let s ← rest
  let isPlain (c : Char) : Bool := !isBreak c && c ∉ ['\'', '"', '\\', '$', '\x60']
  let w := String.ofList (s.takeWhile isPlain)
  let ends := (s.dropWhile isPlain).head?.all isBreak
  pure (if ends && reservedWords.contains w then some w else none)

def named (s : String) : String := "\"" ++ s ++ "\""

def tokenName : Parser String := do
  skipBlanks
  let s ← rest
  let signs := [";;", ";", "&&", "&", "||", "|", "(", ")"]
  match s with
  | [] => pure "end of file"
  | '\n' :: _ => pure "newline"
  | _ =>
    match signs.find? fun t => t.toList.isPrefixOf s with
    | some t => pure (named t)
    | none =>
      let behind := s.dropWhile Char.isDigit
      if behind.head? == some '<' || behind.head? == some '>' then pure "redirection"
      else
        match ← reserved with
        | some w => pure (named w)
        | none => pure "word"

/-- Stops at what comes next, in place of which something else may have been expected. -/
def unexpected {α : Type} (expected : Option String) : Parser α := do
  let name ← tokenName
  if ← sees "\n" then drop 1
  fail (name ++ " unexpected" ++ match expected with
    | some e => " (expecting " ++ e ++ ")"
    | none => "")

def expect (s : String) : Parser Unit := do
  if !(← accept s) then unexpected (some (named s))

/-- Takes a word with a meaning of its own, which must come. -/
def expectReserved (w : String) : Parser Unit := do
  skipBlanks
  if (← reserved) == some w then drop w.length
  else unexpected (some (named w))

/-- What stands before a closing character, behind which the rest stands. -/
def upTo (close : Char) (message : String) : Parser Octets := do
  let s ← rest
  let inside := s.takeWhile (· ≠ close)
  if inside.length = s.length then fail message
  else
    drop (inside.length + 1)
    pure inside

/-- The content of an old form of command substitution: a backslash protects a few characters. -/
def backquoted (inQuotes : Bool) : Nat → Octets → Octets → Option (Octets × Octets)
  | 0, _, _ => none
  | n + 1, done, s =>
    match s with
    | '\x60' :: r => some (done.reverse, r)
    | '\\' :: c :: r =>
      if ['\\', '$', '\x60'].contains c || (inQuotes && c == '"') then backquoted inQuotes n (c :: done) r
      else backquoted inQuotes n (c :: '\\' :: done) r
    | c :: r => backquoted inQuotes n (c :: done) r
    | [] => none

/-- The name of a parameter behind a dollar sign: a name, a digit or a sign. -/
def parameterName : Octets → Octets
  | c :: r =>
    if isNameStart c then c :: r.takeWhile isNameChar
    else if c.isDigit || ['@', '*', '#', '?', '-', '$', '!'].contains c then [c]
    else []
  | [] => []

/-- The adjustment that stands behind the name in braces. -/
def adjustment : Parser Adjustment := do
  let colon ← accept ":"
  match ← rest with
  | '-' :: _ => drop 1; pure (.default colon)
  | '=' :: _ => drop 1; pure (.assign colon)
  | '?' :: _ => drop 1; pure (.demand colon)
  | '+' :: _ => drop 1; pure (.replace colon)
  | '%' :: '%' :: _ => drop 2; pure (.dropBack true)
  | '%' :: _ => drop 1; pure (.dropBack false)
  | '#' :: '#' :: _ => drop 2; pure (.dropFront true)
  | '#' :: _ => drop 1; pure (.dropFront false)
  | _ => pure .unknown

/-- The text of pieces without any quoting, and whether there was some. -/
def literal (w : Word) : Octets × Bool :=
  w.foldl (fun (s, q) p => match p with
    | .plain c => (s ++ [c], q)
    | .quoted t => (s ++ t, true)
    | _ => (s, q)) ([], false)

/-- The lines of a document up to its delimiter, and the rest. -/
def documentLines (d : Announced) : Nat → Octets → Octets → Octets × Octets
  | 0, done, s => (done, s)
  | n + 1, done, s =>
    if s.isEmpty then (done, [])
    else
      let line := s.takeWhile (· ≠ '\n')
      let line := if d.stripsTabs then line.dropWhile (· == '\t') else line
      let behind := (s.dropWhile (· ≠ '\n')).drop 1
      if line = d.delimiter then (done, behind) else documentLines d n (done ++ line ++ ['\n']) behind

/-- The name of an assignment at the front of a word, and the rest of the word. -/
def assignment? (w : Word) : Option (Octets × Word) :=
  let isPlain : Piece → Bool := fun p => match p with
    | .plain c => c != '='
    | _ => false
  let front := w.takeWhile isPlain
  let name := (literal front).1
  match w.dropWhile isPlain with
  | .plain '=' :: value => if isName name then some (name, value) else none
  | _ => none

mutual

def dollar : Nat → Bool → Parser Word
  | 0, _ => fail "too deep"
  | n + 1, inQuotes => do
    let s ← rest
    match s with
    | '(' :: '(' :: _ =>
      drop 2
      let body ← arithmetic n 0
      pure [.arithmetic body inQuotes]
    | '(' :: _ =>
      drop 1
      let body ← compound n true
      skipBlanks
      expect ")"
      pure [.command body inQuotes]
    | '\x7b' :: r =>
      drop 1
      let isLength := r.head? == some '#' && !(parameterName (r.drop 1)).isEmpty
      if isLength then
        drop 1
        let name := parameterName (r.drop 1)
        drop name.length
        if ← accept "\x7d" then pure [.parameter name .length [] inQuotes]
        else
          let operand ← operand n inQuotes
          pure [.parameter name .unknown operand inQuotes]
      else
        let digits := r.takeWhile Char.isDigit
        let name := if digits.isEmpty then parameterName r else digits
        drop name.length
        if (← rest).isEmpty then fail "Missing '\x7d'"
        else
          if !name.isEmpty && (← accept "\x7d") then pure [.parameter name .none [] inQuotes]
          else
            let a ← adjustment
            let trims := match a with
              | .dropFront _ | .dropBack _ => true
              | _ => false
            let operand ← operand n (inQuotes && !trims)
            pure [.parameter name a operand inQuotes]
    | s =>
      let name := parameterName s
      if name.isEmpty then pure [if inQuotes then .quoted ['$'] else .plain '$']
      else
        drop name.length
        pure [.parameter name .none [] inQuotes]

/-- What stands behind the adjustment of a parameter, up to the closing brace. -/
def operand : Nat → Bool → Parser Word
  | 0, _ => fail "too deep"
  | n + 1, inQuotes => do
    match ← rest with
    | [] => fail "Missing '\x7d'"
    | '\x7d' :: _ => drop 1; pure []
    | '\'' :: _ =>
      if inQuotes then
        drop 1
        pure (.quoted ['\''] :: (← operand n inQuotes))
      else
        drop 1
        let s ← upTo '\'' "Unterminated quoted string"
        pure (.quoted s :: (← operand n inQuotes))
    | '"' :: _ =>
      drop 1
      let inner ← doubleQuoted n
      pure (.quoted [] :: inner ++ (← operand n inQuotes))
    | '\\' :: '\n' :: _ => drop 2; operand n inQuotes
    | '\\' :: c :: _ => drop 2; pure (.quoted [c] :: (← operand n inQuotes))
    | '$' :: _ =>
      drop 1
      let p ← dollar n inQuotes
      pure (p ++ (← operand n inQuotes))
    | '\x60' :: _ =>
      let p ← backquote n inQuotes
      pure (p ++ (← operand n inQuotes))
    | c :: _ =>
      drop 1
      let p : Piece := if inQuotes then .quoted [c] else .plain c
      pure (p :: (← operand n inQuotes))

/-- The old form of command substitution. -/
def backquote : Nat → Bool → Parser Word
  | 0, _ => fail "too deep"
  | n + 1, inQuotes => do
    drop 1
    let s ← rest
    match backquoted inQuotes (s.length + 1) [] s with
    | none => fail "EOF in backquote substitution"
    | some (inside, after) =>
      let outer ← get
      set (outer.within inside)
      let body ← compound n true
      skipBlanks
      if !(← rest).isEmpty then unexpected none
      else
        modify fun s => { s with rest := after, first := outer.first, ends := outer.ends }
        pure [.command body inQuotes]

/-- What stands between double quotes, behind the first of them. -/
def doubleQuoted : Nat → Parser Word
  | 0 => fail "too deep"
  | n + 1 => do
    match ← rest with
    | [] => fail "Unterminated quoted string"
    | '"' :: _ => drop 1; pure []
    | '\\' :: '\n' :: _ => drop 2; doubleQuoted n
    | '\\' :: c :: _ =>
      drop 2
      let s : Octets := if ['$', '\x60', '"', '\\'].contains c then [c] else ['\\', c]
      pure (.quoted s :: (← doubleQuoted n))
    | '$' :: _ =>
      drop 1
      let p ← dollar n true
      pure (p ++ (← doubleQuoted n))
    | '\x60' :: _ =>
      let p ← backquote n true
      pure (p ++ (← doubleQuoted n))
    | c :: _ => drop 1; pure (.quoted [c] :: (← doubleQuoted n))

def document : Nat → Parser Word
  | 0 => fail "too deep"
  | n + 1 => do
    match ← rest with
    | [] => pure []
    | '\\' :: '\n' :: _ => drop 2; document n
    | '\\' :: c :: _ =>
      drop 2
      let s : Octets := if ['$', '\x60', '\\'].contains c then [c] else ['\\', c]
      pure (.quoted s :: (← document n))
    | '$' :: _ =>
      drop 1
      let p ← dollar n true
      pure (p ++ (← document n))
    | '\x60' :: _ =>
      let p ← backquote n true
      pure (p ++ (← document n))
    | c :: _ => drop 1; pure (.quoted [c] :: (← document n))

/-- An arithmetic expression up to two closing parentheses. -/
def arithmetic : Nat → Nat → Parser Word
  | 0, _ => fail "too deep"
  | n + 1, depth => do
    match ← rest with
    | [] => fail "Missing '))'"
    | ')' :: ')' :: _ =>
      if depth = 0 then
        drop 2
        pure []
      else
        drop 1
        pure (.quoted [')'] :: (← arithmetic n (depth - 1)))
    | ')' :: _ =>
      if depth = 0 then fail "Missing '))'"
      else
        drop 1
        pure (.quoted [')'] :: (← arithmetic n (depth - 1)))
    | '(' :: _ => drop 1; pure (.quoted ['('] :: (← arithmetic n (depth + 1)))
    | '$' :: _ =>
      drop 1
      let p ← dollar n true
      pure (p ++ (← arithmetic n depth))
    | '\x60' :: _ =>
      let p ← backquote n true
      pure (p ++ (← arithmetic n depth))
    | c :: _ => drop 1; pure (.quoted [c] :: (← arithmetic n depth))

/-- The pieces of a word. There are none where no word begins. -/
def word : Nat → Parser Word
  | 0 => fail "too deep"
  | n + 1 => do
    match ← rest with
    | [] => pure []
    | '\'' :: _ =>
      drop 1
      let s ← upTo '\'' "Unterminated quoted string"
      pure (.quoted s :: (← word n))
    | '"' :: _ =>
      drop 1
      let inner ← doubleQuoted n
      pure (.quoted [] :: inner ++ (← word n))
    | '\\' :: '\n' :: _ => drop 2; word n
    | '\\' :: c :: _ => drop 2; pure (.quoted [c] :: (← word n))
    | '$' :: _ =>
      drop 1
      let p ← dollar n false
      pure (p ++ (← word n))
    | '\x60' :: _ =>
      let p ← backquote n false
      pure (p ++ (← word n))
    | c :: _ =>
      if isBreak c then pure []
      else
        drop 1
        pure (.plain c :: (← word n))

/-- Reads the documents that the line announced. -/
def announcedDocuments : Nat → Parser Unit
  | 0 => fail "too deep"
  | n + 1 => do
    let s ← get
    match s.announced with
    | [] => pure ()
    | d :: ds =>
      let (text, after) := documentLines d (s.rest.length + 1) [] s.rest
      let body ←
        if d.expands then
          set (s.within text)
          document n
        else pure [.quoted text]
      modify fun t => { t with
        rest := after
        first := s.first
        ends := s.ends
        announced := ds
        documents := (d.id, body) :: t.documents }
      announcedDocuments n

/-- Takes the end of a line with the documents behind it. -/
def lineEnd : Nat → Parser Unit
  | 0 => fail "too deep"
  | n + 1 => do
    drop 1
    announcedDocuments n

def skipLines : Nat → Parser Unit
  | 0 => fail "too deep"
  | n + 1 => do
    skipBlanks
    if ← sees "\n" then
      lineEnd n
      skipLines n

def redirection : Nat → Parser (Option Redirection)
  | 0 => fail "too deep"
  | n + 1 => do
    let s ← rest
    let digits := s.takeWhile Char.isDigit
    let behind := s.drop digits.length
    if !(behind.head? == some '<' || behind.head? == some '>') || 1 < digits.length then pure none
    else
      let given : Option Nat := digits.head?.map fun c => c.toNat - 48
      drop digits.length
      let (usual, direction, length) : Nat × Direction × Nat := match behind with
        | '<' :: '<' :: '-' :: _ => (0, .document 1, 3)
        | '<' :: '<' :: _ => (0, .document 0, 2)
        | '<' :: '&' :: _ => (0, .copyIn, 2)
        | '<' :: '>' :: _ => (0, .both, 2)
        | '<' :: _ => (0, .read, 1)
        | '>' :: '>' :: _ => (1, .append, 2)
        | '>' :: '&' :: _ => (1, .copyOut, 2)
        | '>' :: '|' :: _ => (1, .replace, 2)
        | _ => (1, .replace, 1)
      drop length
      skipBlanks
      let target ← word n
      if target.isEmpty then unexpected none
      else
        let number := given.getD usual
        match direction with
        | .document strips =>
          let (delimiter, quoted) := literal target
          let id := (← get).fresh
          modify fun s => { s with
            fresh := s.fresh + 1,
            announced := s.announced ++ [⟨id, delimiter, strips = 1, !quoted⟩] }
          pure (some (.mk number (.document id) []))
        | direction => pure (some (.mk number direction target))

def redirections : Nat → Parser (List Redirection)
  | 0 => fail "too deep"
  | n + 1 => do
    skipBlanks
    match ← redirection n with
    | none => pure []
    | some r => pure (r :: (← redirections n))

/-- The parts of a simple command that begins at a line. -/
def simple : Nat → Nat → List (Octets × Word) → List Word → List Redirection → Parser Command
  | 0, _, _, _, _ => fail "too deep"
  | n + 1, start, assignments, words, rs => do
    skipBlanks
    match ← redirection n with
    | some r => simple n start assignments words (rs ++ [r])
    | none =>
      let w ← word n
      if w.isEmpty then pure (.simple start assignments words rs)
      else
        match if words.isEmpty then assignment? w else none with
        | some a => simple n start (assignments ++ [a]) words rs
        | none =>
          if words.isEmpty && assignments.isEmpty && rs.isEmpty && isName (literal w).1 then
            skipBlanks
            if ← accept "(" then
              skipBlanks
              expect ")"
              skipLines n
              let body ← command n
              pure (.define (literal w).1 body)
            else simple n start assignments [w] rs
          else simple n start assignments (words ++ [w]) rs

def words : Nat → Parser (List Word)
  | 0 => fail "too deep"
  | n + 1 => do
    skipBlanks
    let w ← word n
    if w.isEmpty then pure [] else pure (w :: (← words n))

def patterns : Nat → Parser (List Word)
  | 0 => fail "too deep"
  | n + 1 => do
    skipBlanks
    let w ← word n
    skipBlanks
    if !w.isEmpty && (← accept "|") then pure (w :: (← patterns n))
    else
      expect ")"
      pure [w]

def arms : Nat → Parser (List (List Word × Command))
  | 0 => fail "too deep"
  | n + 1 => do
    skipLines n
    if (← reserved) == some "esac" then
      drop 4
      pure []
    else
      let _ ← accept "("
      let ps ← patterns n
      let body ← compound n true
      skipLines n
      if ← accept ";;" then pure ((ps, body) :: (← arms n))
      else if (← reserved) == some "esac" then
        drop 4
        pure [(ps, body)]
      else unexpected (some (named ";;"))

/-- What follows the condition of a choice. -/
def alternatives : Nat → Parser Command
  | 0 => fail "too deep"
  | n + 1 => do
    let condition ← compound n false
    expectReserved "then"
    let yes ← compound n false
    skipBlanks
    match ← reserved with
    | some "elif" =>
      drop 4
      pure (.choice condition yes (← alternatives n))
    | some "else" =>
      drop 4
      let no ← compound n false
      expectReserved "fi"
      pure (.choice condition yes no)
    | _ =>
      expectReserved "fi"
      pure (.choice condition yes .nothing)

def doBody : Nat → Parser Command
  | 0 => fail "too deep"
  | n + 1 => do
    skipLines n
    expectReserved "do"
    let body ← compound n false
    expectReserved "done"
    pure body

def command : Nat → Parser Command
  | 0 => fail "too deep"
  | n + 1 => do
    skipBlanks
    if ← accept "(" then
      let body ← compound n false
      skipBlanks
      expect ")"
      wrapped n (.subshell body)
    else
      match ← reserved with
      | some "\x7b" =>
        drop 1
        let body ← compound n false
        expectReserved "\x7d"
        wrapped n body
      | some "if" =>
        drop 2
        wrapped n (← alternatives n)
      | some "while" =>
        drop 5
        let condition ← compound n false
        wrapped n (.loop false condition (← doBody n))
      | some "until" =>
        drop 5
        let condition ← compound n false
        wrapped n (.loop true condition (← doBody n))
      | some "for" =>
        drop 3
        skipBlanks
        let name := (literal (← word n)).1
        if !isName name then fail "Bad for loop variable"
        else
          skipLines n
          let given ←
            if (← reserved) == some "in" then
              drop 2
              let ws ← words n
              if !(← sees "\n") && (!(← sees ";") || (← sees ";;")) then unexpected none
              pure (some ws)
            else pure none
          skipBlanks
          let _ ← accept ";"
          wrapped n (.each name given (← doBody n))
      | some "case" =>
        drop 4
        skipBlanks
        let subject ← word n
        if subject.isEmpty then unexpected (some "word")
        skipLines n
        expectReserved "in"
        wrapped n (.branch subject (← arms n))
      | some _ => unexpected none
      | none =>
        match ← simple n (← get).line [] [] [] with
        | .simple _ [] [] [] => unexpected none
        | c => pure c

def wrapped : Nat → Command → Parser Command
  | 0, _ => fail "too deep"
  | n + 1, c => do
    match ← redirections n with
    | [] => pure c
    | rs => pure (.redirected c rs)

/-- The commands of a pipeline behind the first. -/
def pipeParts : Nat → Parser (List Command)
  | 0 => fail "too deep"
  | n + 1 => do
    skipBlanks
    if (← sees "|") && !(← sees "||") then
      drop 1
      skipLines n
      let c ← command n
      pure (c :: (← pipeParts n))
    else pure []

def pipeline : Nat → Parser Command
  | 0 => fail "too deep"
  | n + 1 => do
    skipBlanks
    if (← reserved) == some "!" then
      drop 1
      pure (.negated (← pipeline n))
    else
      let c ← command n
      match ← pipeParts n with
      | [] => pure c
      | cs => pure (.pipeline (c :: cs))

/-- What follows a pipeline in a chain. -/
def chain : Nat → Command → Parser Command
  | 0, _ => fail "too deep"
  | n + 1, c => do
    skipBlanks
    if ← accept "&&" then
      skipLines n
      let d ← pipeline n
      chain n (.both c d)
    else if ← accept "||" then
      skipLines n
      let d ← pipeline n
      chain n (.either c d)
    else pure c

/-- The commands of one line. What ends a group of commands may stand in place of the first one, or of a later
one. -/
def line : Nat → Bool → Bool → Parser Command
  | 0, _, _ => fail "too deep"
  | n + 1, mayEnd, mayEndLater => do
    skipBlanks
    let s ← rest
    let stops := match ← reserved with
      | some w => ["then", "else", "elif", "fi", "do", "done", "esac", "\x7d"].contains w
      | none => false
    let stops := stops || s.head? == some ')' || s.take 2 == [';', ';']
    if s.isEmpty || s.head? == some '\n' || (mayEnd && stops) then pure .nothing
    else
      let c ← chain n (← pipeline n)
      skipBlanks
      if (← sees ";") && !(← sees ";;") then
        drop 1
        pure (.sequence c (← line n mayEndLater mayEndLater))
      else if ← accept "&" then
        pure (.sequence (.background c) (← line n mayEndLater mayEndLater))
      else pure c

/-- The commands of several lines, of which there may be none. -/
def compound : Nat → Bool → Parser Command
  | 0, _ => fail "too deep"
  | n + 1, mayBeEmpty => do
    skipLines n
    let c ← line n mayBeEmpty true
    skipBlanks
    if ← sees "\n" then
      lineEnd n
      pure (.sequence c (← compound n true))
    else pure c

end

/-- The next line of commands, or nothing at the end of the text. -/
def nextLine (n : Nat) : Parser (Option Command) := do
  skipLines n
  if (← rest).isEmpty then pure none
  else
    let c ← line n false false
    skipBlanks
    match ← rest with
    | [] => pure (some c)
    | '\n' :: _ =>
      lineEnd n
      pure (some c)
    | _ => unexpected none

/-- All lines of commands. A mistake stands in place of the line that holds it, and ends the list. -/
def lines (depth : Nat) : Nat → Source → List Command × Source
  | 0, s => ([], s)
  | n + 1, s =>
    match (nextLine depth).run s with
    | .error (line, message) => ([.malformed line message], s)
    | .ok (none, s) => ([], s)
    | .ok (some c, s) =>
      let (cs, s) := lines depth n s
      (c :: cs, s)

end Parser

/-- The commands of a text, and the documents in it. Documents are numbered from `fresh` on. -/
def parse (fresh : Nat) (s : Octets) : List Command × List (Nat × Word) × Nat :=
  let (cs, source) := Parser.lines (4 * s.length + 64) (s.length + 1) ⟨s, 1, lineEnds s, [], [], fresh⟩
  (cs, source.documents, source.fresh)

end Stencil.Shell
