import Stencil.Decimal.Integer
import Stencil.Label.Name
import Stencil.Label.Token

set_option autoImplicit false
set_option relaxedAutoImplicit false

/-!
Label selectors: requirements joined by commas, all of which a set of labels has to meet.
-/

namespace Stencil.Label

open Stencil.Text Stencil.Decimal

abbrev Labels := List (String × String)

inductive Condition
  | present
  | absent
  | equals (value : String)
  | differs (value : String)
  | oneOf (values : List String)
  | noneOf (values : List String)
  | above (bound : Int)
  | below (bound : Int)
deriving DecidableEq, Repr

/-- The value under a key, if there is one, meets the condition. A value compared with a number has to be
a signed 64-bit integer itself. -/
def Condition.holds : Condition → Option String → Bool
  | .present, v => v.isSome
  | .absent, v => v.isNone
  | .equals e, v => v == some e
  | .differs e, v => v != some e
  | .oneOf es, v => v.any (es.contains ·)
  | .noneOf es, v => !v.any (es.contains ·)
  | .above b, v => (v.bind fun s => signed64? s.toList).any (b < ·)
  | .below b, v => (v.bind fun s => signed64? s.toList).any (· < b)

/-- A requirement puts a condition on the label under a key. -/
structure Requirement where
  key : String
  condition : Condition
deriving DecidableEq, Repr

def Requirement.holds (r : Requirement) (labels : Labels) : Bool :=
  r.condition.holds (labels.lookup r.key)

inductive Refusal
  | keyExpected
  | name (e : NameError)
  | unexpectedAfterKey (found : Token) (key : String)
  | valueExpected (found : Token)
  | notInteger (word : String)
  | integerExpected
  | openingExpected
  | separatorExpected
  | unterminatedSet
  | trailingComma
  | commaExpected (found : Token)
deriving DecidableEq, Repr

/-- The message of a refusal, without its position. -/
def Refusal.message : Refusal → String
  | .keyExpected => "expected label key"
  | .name e => e.message
  | .unexpectedAfterKey t key => "unexpected " ++ t.describe ++ " after key '" ++ key ++ "'"
  | .valueExpected t => "expected label value, found " ++ t.describe
  | .notInteger w => "'" ++ w ++ "' is not an integer"
  | .integerExpected => "expected integer value"
  | .openingExpected => "expected '(' to open value set"
  | .separatorExpected => "expected ',' or ')' in value set"
  | .unterminatedSet => "unterminated value set"
  | .trailingComma => "trailing comma"
  | .commaExpected t => "expected ',' but found " ++ t.describe

/-- A refusal together with the byte offset that it is reported at. -/
structure SelectorError where
  reason : Refusal
  position : Nat
deriving DecidableEq, Repr

def SelectorError.message (e : SelectorError) : String :=
  e.reason.message ++ " (at byte " ++ toString e.position ++ ")"

/-- Tokens that remain to be read, each with its byte offset. -/
abbrev Tokens := List (Token × Nat)

/-- A reader of tokens is told the offset at which the input counts as ended. -/
abbrev Reader (α : Type) := Nat → Tokens → Except SelectorError (α × Tokens)

def offsetOf (ending : Nat) : Tokens → Nat
  | [] => ending
  | (_, p) :: _ => p

def refuse {α : Type} (ending : Nat) (ts : Tokens) (reason : Refusal) : Except SelectorError α :=
  .error ⟨reason, offsetOf ending ts⟩

def readKey : Reader String := fun ending ts =>
  match ts with
  | (.word w, p) :: r =>
    match keyError? w with
    | none => .ok (String.ofList w, r)
    | some e => .error ⟨.name e, p⟩
  | ts => refuse ending ts .keyExpected

/-- Reads a label value, which is empty before a comma and at the end. -/
def readValue : Reader String := fun ending ts =>
  match ts with
  | [] => .ok ("", [])
  | (.comma, p) :: r => .ok ("", (.comma, p) :: r)
  | (.word w, _) :: r =>
    match valueError? w with
    | none => .ok (String.ofList w, r)
    | some e => refuse ending r (.name e)
  | (t, p) :: r => refuse ending ((t, p) :: r) (.valueExpected t)

def readInteger : Reader Int := fun ending ts =>
  match ts with
  | (.word w, _) :: r =>
    match signed64? w with
    | some n => .ok (n, r)
    | none => refuse ending r (.notInteger (String.ofList w))
  | ts => refuse ending ts.tail .integerExpected

/-- Reads the members of a value set up to the closing parenthesis. A comma without a word before it
stands for an empty member. -/
def readMembers (ending : Nat) : Tokens → Except SelectorError (List String × Tokens)
  | (.closing, _) :: r => .ok ([], r)
  | (.comma, _) :: r => (readMembers ending r).map fun m => ("" :: m.1, m.2)
  | (.word w, _) :: r =>
    match valueError? w with
    | some e => refuse ending r (.name e)
    | none =>
      match r with
      | (.comma, _) :: r => (readMembers ending r).map fun m => (String.ofList w :: m.1, m.2)
      | (.closing, _) :: r => .ok ([String.ofList w], r)
      | r => refuse ending r.tail .separatorExpected
  | ts => refuse ending ts .unterminatedSet

def readSet : Reader (List String) := fun ending ts =>
  match ts with
  | (.opening, _) :: r => readMembers ending r
  | ts => refuse ending ts.tail .openingExpected

def readCondition (key : String) : Reader Condition := fun ending ts =>
  match ts with
  | [] => .ok (.present, [])
  | (t, p) :: r =>
    match t with
    | .comma => .ok (.present, ts)
    | .eq | .doubleEq => (readValue ending r).map fun v => (.equals v.1, v.2)
    | .notEq => (readValue ending r).map fun v => (.differs v.1, v.2)
    | .gt => (readInteger ending r).map fun v => (.above v.1, v.2)
    | .lt => (readInteger ending r).map fun v => (.below v.1, v.2)
    | .word w =>
      if w = ['i', 'n'] then (readSet ending r).map fun v => (.oneOf v.1, v.2)
      else if w = ['n', 'o', 't', 'i', 'n'] then (readSet ending r).map fun v => (.noneOf v.1, v.2)
      else .error ⟨.unexpectedAfterKey t key, p⟩
    | _ => .error ⟨.unexpectedAfterKey t key, p⟩

def readRequirement : Reader Requirement := fun ending ts =>
  match ts with
  | (.bang, _) :: r => (readKey ending r).map fun k => (⟨k.1, .absent⟩, k.2)
  | ts =>
    match readKey ending ts with
    | .error e => .error e
    | .ok (key, r) => (readCondition key ending r).map fun c => (⟨key, c.1⟩, c.2)

/-- Reads requirements, at least one and at most the given number, joined by commas up to the end. -/
def readRequirements (ending : Nat) : Nat → Tokens → Except SelectorError (List Requirement)
  | 0, ts => refuse ending ts .keyExpected
  | n + 1, ts =>
    match readRequirement ending ts with
    | .error e => .error e
    | .ok (q, []) => .ok [q]
    | .ok (_, [(.comma, _)]) => refuse ending [] .trailingComma
    | .ok (q, (.comma, _) :: r) => (readRequirements ending n r).map (q :: ·)
    | .ok (_, (t, p) :: r) => refuse ending ((t, p) :: r) (.commaExpected t)

/-- The offset at which a row of tokens counts as ended: one byte after the last one begins. -/
def endingOf (ts : Tokens) : Nat := (ts.getLast?.map (·.2 + 1)).getD 0

/-- The requirements that tokens write. No token, no requirement. -/
def requirementsOf (ts : Tokens) : Except SelectorError (List Requirement) :=
  if ts.isEmpty then .ok [] else readRequirements (endingOf ts) ts.length ts

/-- A selector: the text it was written as, without blanks at its ends, and its requirements. -/
structure Selector where
  text : String
  requirements : List Requirement
deriving DecidableEq, Repr

def Selector.parse (s : String) : Except SelectorError Selector :=
  (requirementsOf (tokens s.toList)).map fun rs => ⟨String.ofList (Blank.trim s.toList), rs⟩

/-- A selector without requirements holds of all labels. -/
def Selector.isEmpty (s : Selector) : Bool := s.requirements.isEmpty

def Selector.holds (s : Selector) (labels : Labels) : Bool := s.requirements.all (·.holds labels)

end Stencil.Label
