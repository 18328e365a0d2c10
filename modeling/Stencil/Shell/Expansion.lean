import Stencil.Shell.Arithmetic
import Stencil.Shell.Pattern
import Stencil.Shell.State

set_option autoImplicit false
set_option relaxedAutoImplicit false

/-!
From words to the texts that they stand for: parameters, the output of commands and arithmetic are put in, what
was not quoted is split at separators, and patterns become the paths that meet them.
-/

namespace Stencil.Shell.Expansion

open Stencil.Machine Stencil.Filesystem

/-- A part of a word after parameters have been put in: a character, which may be quoted and may separate
fields; the place of an empty text in quotes; the end of a field; or a list of fields without any. -/
inductive Mark
  | char (c : Char) (quoted splits : Bool)
  | hole
  | cut
  | void
deriving DecidableEq, Repr

def marks (s : Octets) (quoted splits : Bool) : List Mark := s.map fun c => .char c quoted splits

def characters (ms : List Mark) : Octets :=
  ms.filterMap fun m => match m with
    | .char c _ _ => some c
    | .cut => some ' '
    | _ => none

def patternOf (ms : List Mark) : List PatternChar :=
  ms.filterMap fun m => match m with
    | .char c q _ => some (c, q)
    | _ => none

def separators (s : State) : Octets := (Action.held? s (octets "IFS")).getD [' ', '\t', '\n']

def abort {α : Type} (message : String) : Action α := do
  Action.complain message
  Action.halt (Program.exit 2)

/-- The marks of the positional parameters. -/
def positionalMarks (s : State) (name : Octets) (inQuotes : Bool) : List Mark :=
  match name, inQuotes with
  | ['@'], true =>
    if s.positional.isEmpty then [.void]
    else [Mark.cut].intercalate (s.positional.map fun p => marks p true false)
  | _, true =>
    let between := match separators s with
      | c :: _ => [c]
      | [] => []
    marks (between.intercalate s.positional) true false
  | _, false =>
    if s.positional.isEmpty then []
    else [Mark.cut].intercalate ((s.positional.filter fun p => !p.isEmpty).map fun p => marks p false true)

def numbers (s : State) : Arithmetic.Variables :=
  s.bindings.map fun m => (m.1, Arithmetic.ofText m.2.value)

/-- The value of an arithmetic expression. Variables keep what it assigns to them. -/
def arithmetic (text : Octets) : Action Octets := do
  let before := numbers (← Action.get)
  match Arithmetic.evaluate before text with
  | .error e@(.number _) => abort e.reason
  | .error e => abort ("arithmetic expression: " ++ e.reason ++ ": \"" ++ textOf text ++ "\"")
  | .ok (x, after) =>
    let made := (after.take (after.length - before.length)).reverse
    made.forM fun m => match m.2 with
      | .ok v => Action.assign m.1 (toString v).toList
      | .error _ => pure ()
    pure (toString x).toList

def isMissing (colon : Bool) : Option Octets → Bool
  | none => true
  | some v => colon && v.isEmpty

def pieces (substitute : Command → Action Octets) : Nat → Word → Action (List Mark)
  | 0, _ => abort "expansion too deep"
  | _ + 1, [] => pure []
  | n + 1, p :: rest => do
    let first ← match p with
      | .plain c => pure [Mark.char c false false]
      | .quoted [] => pure [Mark.hole]
      | .quoted s => pure (marks s true false)
      | .command body q => do
        let out ← substitute body
        pure (marks out q !q)
      | .arithmetic body q => do
        let inner ← pieces substitute n body
        let v ← arithmetic (characters inner)
        pure (marks v q !q)
      | .parameter name a operand q => do
        let s ← Action.get
        let value := Action.parameter? s name
        let isList := name = ['@'] || name = ['*']
        let here (v : Octets) : List Mark := if isList then positionalMarks s name q else marks v q !q
        match a with
        | .none =>
          match value with
          | some v => pure (here v)
          | none =>
            if isList then pure (positionalMarks s name q)
            else if s.stopsOnUnset then abort (textOf name ++ ": parameter not set")
            else pure []
        | .unknown => abort "Bad substitution"
        | .length => pure (marks (ofNat (value.getD []).length) q !q)
        | .default colon =>
          if isMissing colon value then pieces substitute n operand else pure (here (value.getD []))
        | .assign colon =>
          if isMissing colon value then do
            let inner ← pieces substitute n operand
            Action.assign name (characters inner)
            pure (marks (characters inner) q !q)
          else pure (here (value.getD []))
        | .demand colon =>
          if isMissing colon value then do
            let inner ← pieces substitute n operand
            let said := characters inner
            let usual := "parameter not set" ++ if colon then " or null" else ""
            abort (textOf name ++ ": " ++ if said.isEmpty then usual else textOf said)
          else pure (here (value.getD []))
        | .replace colon =>
          if isMissing colon value then pure [] else pieces substitute n operand
        | .dropFront longest => do
          let inner ← pieces substitute n operand
          pure (marks (Pattern.dropFront longest (patternOf inner) (value.getD [])) q !q)
        | .dropBack longest => do
          let inner ← pieces substitute n operand
          pure (marks (Pattern.dropBack longest (patternOf inner) (value.getD [])) q !q)
    let others ← pieces substitute n rest
    pure (first ++ others)

/-- Fields, the latest first, and one under construction: its marks, the latest first, whether there is one, and
whether blanks have just ended one. -/
structure Splitting where
  done : List (List Mark)
  current : List Mark
  isField : Bool
  afterBlank : Bool

def Splitting.closed (s : Splitting) : List (List Mark) := s.current.reverse :: s.done

def Splitting.next (ifs : Octets) (s : Splitting) (m : Mark) : Splitting :=
  match m with
  | .hole => { s with isField := true, afterBlank := false }
  | .void => s
  | .cut => ⟨s.closed, [], true, false⟩
  | .char c q splits =>
    if splits && ifs.contains c then
      if c == ' ' || c == '\t' || c == '\n' then
        if s.isField then ⟨s.closed, [], false, true⟩ else s
      else if !s.isField && s.afterBlank then { s with afterBlank := false }
      else ⟨s.closed, [], false, false⟩
    else ⟨s.done, .char c q splits :: s.current, true, false⟩

def split (ifs : Octets) (ms : List Mark) : List (List Mark) :=
  let ms := if ms.contains .void then ms.filter fun m => m != .hole else ms
  let s := ms.foldl (Splitting.next ifs) ⟨[], [], false, false⟩
  (if s.isField then s.closed else s.done).reverse

/-- A tilde at the front of a word stands for the home directory. -/
def untilded (s : State) (w : Word) : Word :=
  match w with
  | .plain '~' :: r =>
    let ends := match r with
      | [] | .plain '/' :: _ => true
      | _ => false
    if ends then
      match Action.held? s (octets "HOME") with
      | some home => .quoted home :: r
      | none => w
    else w
  | w => w

/-- The names in a directory, and those of the directory itself and the one above. -/
def namesIn (v : View) (directory : Octets) : List Octets :=
  let path := if directory.isEmpty then "." else textOf directory
  match v.entry path with
  | .ok (p, .directory) => octets "." :: octets ".." :: (v.tree.children p).map octets
  | _ => []

def paths (field : List Mark) : Action (List Octets) := do
  let s ← Action.get
  let text := characters field
  let pattern := patternOf field
  if s.keepsPatterns || !Pattern.isOpen pattern then pure [text]
  else
    let v ← Action.ask fun k => Program.files fun v => (v, k v)
    let found := Pattern.expand (namesIn v) (fun p => v.exists? (textOf p)) [] (Pattern.pathPieces pattern)
    pure (if found.isEmpty then [text] else found)

def depth : Nat := 1000000

def fields (substitute : Command → Action Octets) (w : Word) : Action (List Octets) := do
  let s ← Action.get
  let ms ← pieces substitute depth (untilded s w)
  let s ← Action.get
  let found ← (split (separators s) ms).mapM paths
  pure found.flatten

def allFields (substitute : Command → Action Octets) (ws : List Word) : Action (List Octets) := do
  let found ← ws.mapM (fields substitute)
  pure found.flatten

/-- The text that a word stands for where there is only one. -/
def text (substitute : Command → Action Octets) (w : Word) : Action Octets := do
  let s ← Action.get
  let ms ← pieces substitute depth (untilded s w)
  pure (characters ms)

def pattern (substitute : Command → Action Octets) (w : Word) : Action (List PatternChar) := do
  let ms ← pieces substitute depth w
  pure (patternOf ms)

end Stencil.Shell.Expansion
