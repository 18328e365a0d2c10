import Stencil.Decimal.Integer
import Stencil.Text.Blank
import Stencil.Text.Case
import Stencil.Text.WordTable

set_option autoImplicit false
set_option relaxedAutoImplicit false

/-!
Regular expressions: their syntax, and whether one matches somewhere in a text.
-/

namespace Stencil.Text

inductive CharClass
  | range (low high : Char)
  | digit
  | word
  | blank
  | lineEnd
  | negated (c : CharClass)
  | union (a b : CharClass)
deriving Repr

inductive Regex
  | empty
  | chars (c : CharClass)
  | start
  | stop
  | boundary (negated : Bool)
  | seq (a b : Regex)
  | alt (a b : Regex)
  | many (a : Regex)
deriving Repr

namespace Regex

def isWord (c : Char) : Bool := Case.isLetter c || CharRanges.contains WordTable.beyondLetters c

def holds (c : Char) : CharClass → Bool
  | .range low high => low ≤ c && c ≤ high
  | .digit => CharRanges.contains WordTable.decimalDigits c
  | .word => isWord c
  | .blank => Blank.isBlank c
  | .lineEnd => c == '\n'
  | .negated s => !holds c s
  | .union a b => holds c a || holds c b

/-- A place in a text: the character before it and the text behind it. -/
abbrev Spot := Option Char × List Char

def atBoundary (s : Spot) : Bool :=
  let inside (c : Option Char) : Bool := (c.map isWord).getD false
  inside s.1 != inside s.2.head?

/-- All places that are reached from some places by any number of rounds that go forward. -/
def closure (round : Spot → List Spot) : Nat → List Spot → List Spot
  | 0, spots => spots
  | n + 1, spots =>
    let next := (spots.flatMap round).filter fun s => !spots.any fun t => s.2.length == t.2.length
    if next.isEmpty then spots else closure round n (spots ++ next)

/-- The places at which a match that begins at a place can end. -/
def ends : Regex → Spot → List Spot
  | .empty, s => [s]
  | .chars c, (_, d :: r) => if holds d c then [(some d, r)] else []
  | .chars _, (_, []) => []
  | .start, s => if s.1.isNone then [s] else []
  | .stop, s => if s.2.isEmpty then [s] else []
  | .boundary negated, s => if atBoundary s != negated then [s] else []
  | .seq a b, s => (ends a s).flatMap (ends b)
  | .alt a b, s => ends a s ++ ends b s
  | .many a, s => closure (ends a) (s.2.length + 1) [s]

def spots : Option Char → List Char → List Spot
  | before, [] => [(before, [])]
  | before, c :: r => (before, c :: r) :: spots (some c) r

def occursIn (e : Regex) (s : List Char) : Bool := (spots none s).any fun spot => !(ends e spot).isEmpty

def repeated (e : Regex) : Nat → Regex
  | 0 => .empty
  | n + 1 => .seq e (repeated e n)

def upTo (e : Regex) : Nat → Regex
  | 0 => .empty
  | n + 1 => .alt (.seq e (upTo e n)) .empty

def single (c : Char) : CharClass := .range c c

/-- What a letter behind a backslash stands for. -/
def escape? (c : Char) : Option CharClass :=
  if c = 'd' then some .digit
  else if c = 'D' then some (.negated .digit)
  else if c = 'w' then some .word
  else if c = 'W' then some (.negated .word)
  else if c = 's' then some .blank
  else if c = 'S' then some (.negated .blank)
  else if c = 'n' then some (single '\n')
  else if c = 't' then some (single '\t')
  else if c = 'r' then some (single '\r')
  else if c.isAlphanum then none
  else some (single c)

/-- The items of a set up to its closing bracket. -/
def classItems : Nat → Option CharClass → List Char → Option (CharClass × List Char)
  | 0, _, _ => none
  | _, _, [] => none
  | n + 1, acc, c :: r =>
    let add (s : CharClass) : Option CharClass := some (match acc with
      | none => s
      | some a => .union a s)
    if c = ']' ∧ acc.isSome then acc.map (·, r)
    else if c = '\\' then
      match r with
      | d :: r => (escape? d).bind fun s => classItems n (add s) r
      | [] => none
    else if c = '[' then none
    else
      match r with
      | '-' :: d :: r' =>
        if d = ']' then classItems n (add (single c)) r
        else if d = '\\' ∨ d = '[' ∨ d < c then none
        else classItems n (add (.range c d)) r'
      | r => classItems n (add (single c)) r

def charClass? (s : List Char) : Option (CharClass × List Char) :=
  match s with
  | '^' :: r => (classItems (s.length + 1) none r).map fun m => (.negated m.1, m.2)
  | r => classItems (s.length + 1) none r

/-- The counts of a repetition behind its opening brace. -/
def counts? (s : List Char) : Option (Nat × Option Nat × List Char) :=
  let inside := s.takeWhile (· ≠ '\x7d')
  let rest := s.dropWhile (· ≠ '\x7d')
  match rest with
  | [] => none
  | _ :: rest =>
    let low := inside.takeWhile (· ≠ ',')
    match inside.dropWhile (· ≠ ',') with
    | [] => (Decimal.natural? low).map fun n => (n, some n, rest)
    | [_] => (Decimal.natural? low).map fun n => (n, none, rest)
    | _ :: high => do
      let m ← Decimal.natural? low
      let n ← Decimal.natural? high
      if m ≤ n then some (m, some n, rest) else none

/-- The quantifiers behind an expression. -/
def quantified : Nat → Regex → List Char → Option (Regex × List Char)
  | 0, _, _ => none
  | n + 1, e, s =>
    let lazily (r : List Char) : List Char := if r.head? = some '?' then r.drop 1 else r
    match s with
    | '*' :: r => quantified n (.many e) (lazily r)
    | '+' :: r => quantified n (.seq e (.many e)) (lazily r)
    | '?' :: r => quantified n (.alt e .empty) (lazily r)
    | '\x7b' :: r =>
      match counts? r with
      | none => none
      | some (low, none, r) => quantified n (.seq (repeated e low) (.many e)) (lazily r)
      | some (low, some high, r) =>
        if 1000 < high then none
        else quantified n (.seq (repeated e low) (upTo e (high - low))) (lazily r)
    | s => some (e, s)

/-- The text behind the mark that a group may begin with. -/
def groupBody? (s : List Char) : Option (List Char) :=
  match s with
  | '?' :: ':' :: r => some r
  | '?' :: 'P' :: '<' :: r | '?' :: '<' :: r =>
    let name := r.takeWhile (· ≠ '>')
    if name.isEmpty || !name.all (fun c => c.isAlphanum || c == '_') then none
    else some ((r.dropWhile (· ≠ '>')).drop 1)
  | '?' :: _ => none
  | s => some s

mutual

/-- A single expression with its quantifiers. -/
def item? : Nat → List Char → Option (Regex × List Char)
  | 0, _ => none
  | _, [] => none
  | n + 1, c :: r =>
    let base : Option (Regex × List Char) :=
      if c = '(' then do
        let body ← groupBody? r
        let (e, r) ← choice? n body
        match r with
        | ')' :: r => some (e, r)
        | _ => none
      else if c = '[' then (charClass? r).map fun m => (.chars m.1, m.2)
      else if c = '.' then some (.chars (.negated .lineEnd), r)
      else if c = '^' then some (.start, r)
      else if c = '$' then some (.stop, r)
      else if c = '\\' then
        match r with
        | 'b' :: r => some (.boundary false, r)
        | 'B' :: r => some (.boundary true, r)
        | 'A' :: r => some (.start, r)
        | 'z' :: r => some (.stop, r)
        | d :: r => (escape? d).map (.chars ·, r)
        | [] => none
      else if c = '*' ∨ c = '+' ∨ c = '?' ∨ c = ')' ∨ c = '|' ∨ c = '\x7b' then none
      else some (.chars (single c), r)
    base.bind fun m => quantified (m.2.length + 1) m.1 m.2

def sequence? : Nat → List Char → Option (Regex × List Char)
  | 0, _ => none
  | _, [] => some (.empty, [])
  | n + 1, c :: r =>
    if c = ')' ∨ c = '|' then some (.empty, c :: r)
    else do
      let (e, r) ← item? n (c :: r)
      let (f, r) ← sequence? n r
      some (.seq e f, r)

def choice? : Nat → List Char → Option (Regex × List Char)
  | 0, _ => none
  | n + 1, s => do
    let (e, r) ← sequence? n s
    match r with
    | '|' :: r =>
      let (f, r) ← choice? n r
      some (.alt e f, r)
    | r => some (e, r)

end

def parse? (s : List Char) : Option Regex :=
  match choice? (3 * s.length + 3) s with
  | some (e, []) => some e
  | _ => none

end Regex

end Stencil.Text
