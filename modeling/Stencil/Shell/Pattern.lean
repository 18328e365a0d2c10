import Stencil.Shell.Syntax
import Stencil.Filesystem.Access

set_option autoImplicit false
set_option relaxedAutoImplicit false

/-!
Patterns: a star for any characters, a question mark for one, and brackets for one of several. A character that
is quoted stands for itself.
-/

namespace Stencil.Shell

open Stencil.Filesystem

abbrev PatternChar := Char × Bool

inductive PatternPart
  | exactly (c : Char)
  | any
  | one
  | oneOf (negated : Bool) (ranges : List (Char × Char))

namespace Pattern

def classes : List (String × List (Char × Char)) := [
  ("alpha", [('a', 'z'), ('A', 'Z')]), ("digit", [('0', '9')]), ("lower", [('a', 'z')]),
  ("upper", [('A', 'Z')]), ("alnum", [('a', 'z'), ('A', 'Z'), ('0', '9')]),
  ("space", [(' ', ' '), ('\t', '\r')]), ("blank", [(' ', ' '), ('\t', '\t')]),
  ("punct", [('!', '/'), (':', '@'), ('[', '\x60'), ('\x7b', '~')])]

/-- The ranges between brackets, and what follows them. The first character counts even if it is a bracket. -/
def ranges : Nat → Bool → List PatternChar → Option (List (Char × Char) × List PatternChar)
  | 0, _, _ => none
  | n + 1, isFirst, s =>
    match s with
    | [] => none
    | (']', false) :: r =>
      if isFirst then (ranges n false r).map fun m => ((']', ']') :: m.1, m.2) else some ([], r)
    | ('[', false) :: (':', _) :: r =>
      let name := String.ofList ((r.takeWhile fun c => c.1 ≠ ':').map (·.1))
      let behind := (r.dropWhile fun c => c.1 ≠ ':').drop 2
      match classes.lookup name with
      | some rs => (ranges n false behind).map fun m => (rs ++ m.1, m.2)
      | none => none
    | (a, _) :: ('-', false) :: (b, q) :: r =>
      if b = ']' && !q then (ranges n false (('-', true) :: (b, q) :: r)).map fun m => ((a, a) :: m.1, m.2)
      else (ranges n false r).map fun m => ((a, b) :: m.1, m.2)
    | (a, _) :: r => (ranges n false r).map fun m => ((a, a) :: m.1, m.2)

/-- The parts of a pattern. A bracket that is never closed stands for itself. -/
def parts : Nat → List PatternChar → List PatternPart
  | 0, _ => []
  | n + 1, s =>
    match s with
    | [] => []
    | ('*', false) :: r => .any :: parts n r
    | ('?', false) :: r => .one :: parts n r
    | ('[', false) :: r =>
      let (negated, inside) := match r with
        | ('!', false) :: r | ('^', false) :: r => (true, r)
        | r => (false, r)
      match ranges (inside.length + 1) true inside with
      | some (rs, r) => .oneOf negated rs :: parts n r
      | none => .exactly '[' :: parts n r
    | (c, _) :: r => .exactly c :: parts n r

def endsOf : Octets → List Octets
  | [] => [[]]
  | c :: r => (c :: r) :: endsOf r

def meets : List PatternPart → Octets → Bool
  | [], s => s.isEmpty
  | .any :: ps, s => (endsOf s).any fun t => meets ps t
  | .one :: ps, s =>
    match s with
    | _ :: r => meets ps r
    | [] => false
  | .exactly c :: ps, s =>
    match s with
    | x :: r => x = c && meets ps r
    | [] => false
  | .oneOf negated rs :: ps, s =>
    match s with
    | x :: r => (rs.any fun m => m.1 ≤ x && x ≤ m.2) != negated && meets ps r
    | [] => false

def isMet (p : List PatternChar) (s : Octets) : Bool := meets (parts (p.length + 1) p) s

/-- Some character of a pattern is not to be taken as it is. -/
def isOpen (p : List PatternChar) : Bool :=
  p.any fun c => !c.2 && (c.1 == '*' || c.1 == '?' || c.1 == '[')

/-- The text without its shortest or longest front that meets a pattern. -/
def dropFront (longest : Bool) (p : List PatternChar) (s : Octets) : Octets :=
  let cuts := (List.range (s.length + 1)).filter fun n => isMet p (s.take n)
  match if longest then cuts.getLast? else cuts.head? with
  | some n => s.drop n
  | none => s

/-- The text without its shortest or longest back that meets a pattern. -/
def dropBack (longest : Bool) (p : List PatternChar) (s : Octets) : Octets :=
  let cuts := (List.range (s.length + 1)).filter fun n => isMet p (s.drop n)
  match if longest then cuts.head? else cuts.getLast? with
  | some n => s.take n
  | none => s

def pathPieces (p : List PatternChar) : List (List PatternChar) :=
  p.foldr (fun c acc =>
    if c.1 = '/' then [] :: acc
    else match acc with
      | x :: xs => (c :: x) :: xs
      | [] => [[c]]) [[]]

/-- Names that meet a piece, in order. A point at the front must be written. -/
def namesMeeting (p : List PatternChar) (names : List Octets) : List Octets :=
  let dotted := p.head?.any fun c => c.1 = '.'
  (names.filter fun n => (dotted || n.head? ≠ some '.') && isMet p n).mergeSort fun a b =>
    decide (String.ofList a ≤ String.ofList b)

/-- The paths that meet the pieces of a pattern, each behind a path that was found. -/
def expand (names : Octets → List Octets) (isThere : Octets → Bool) : Octets → List (List PatternChar) →
    List Octets
  | done, [] => [done]
  | done, p :: ps =>
    let close (n : Octets) : Octets := if ps.isEmpty then done ++ n else done ++ n ++ ['/']
    if isOpen p then (namesMeeting p (names done)).flatMap fun n => expand names isThere (close n) ps
    else
      let path := done ++ p.map (·.1)
      if ps.isEmpty then if isThere path then [path] else []
      else expand names isThere (close (p.map (·.1))) ps

end Pattern

end Stencil.Shell
