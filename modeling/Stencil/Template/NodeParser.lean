import Stencil.Template.ExprParser
import Stencil.Template.Node

set_option autoImplicit false
set_option relaxedAutoImplicit false

/-!
The grammar of templates: texts and tags. What may stand in a body depends on where the body is.
-/

namespace Stencil.Template.NodeParser

open Stencil.Template Stencil.Template.Parser

/-- Where a body stands. A branch leaves the place as it is. -/
inductive Place
  | page
  | loop
  | block
  | section
  | definition
deriving DecidableEq

def opening : Parser Bool := word "\x7b%-" true <|> word "\x7b%" false

def closing : Parser Bool := word "-%\x7d" true <|> word "%\x7d" false

def tag {α : Type} (p : Parser α) : Parser (Edges × α) := do
  let left ← opening
  skip
  let a ← p
  skip
  let right ← closing
  pure (⟨left, right⟩, a)

def wordTag (word : String) : Parser Edges := Prod.fst <$> tag (literal word)

def endTag (word : String) : Parser Edges :=
  Prod.fst <$> tag (do literal word; skip; perhaps name)

def outputOf {α : Type} (p : Parser α) : Parser (Edges × α) := do
  let left ← word "\x7b\x7b-" true <|> word "\x7b\x7b" false
  skip
  let a ← p
  skip
  let right ← word "-\x7d\x7d" true <|> word "\x7d\x7d" false
  pure (⟨left, right⟩, a)

def commentRest : List Char → Option (Bool × List Char)
  | [] => none
  | '-' :: '#' :: '\x7d' :: r => some (true, r)
  | '#' :: '\x7d' :: r => some (false, r)
  | _ :: r => commentRest r

def comment : Parser Node := do
  let left ← word "\x7b#-" true <|> word "\x7b#" false
  let right ← commentRest
  pure (.comment ⟨left, right⟩)

/-- The text up to a tag that ends it, and that tag. -/
def rawRest : List Char → Option ((List Char × Edges) × List Char)
  | [] => none
  | c :: r =>
    match wordTag "endraw" (c :: r) with
    | some (e, r) => some (([], e), r)
    | none => (rawRest r).map fun m => ((c :: m.1.1, m.1.2), m.2)

def raw : Parser Node := do
  let start ← wordTag "raw"
  let (s, close) ← rawRest
  pure (.raw start s close)

def atTag : List Char → Bool
  | '\x7b' :: c :: _ => c == '\x7b' || c == '%' || c == '#'
  | _ => false

def textBefore : List Char → List Char × List Char
  | [] => ([], [])
  | c :: r => if atTag (c :: r) then ([], c :: r) else let m := textBefore r; (c :: m.1, m.2)

def text : Parser Node := fun input =>
  match textBefore input with
  | ([], _) => none
  | (c :: s, r) => some (.text (c :: s), r)

def texts : Parser (List String) := do
  literal "["
  skip
  let items ← separated ExprParser.string
  skip
  literal "]"
  pure items

structure Exprs where
  condition : Parser Expr
  value : Parser Expr
  container : Parser Expr

def Exprs.of (l : ExprParser.Level) : Exprs where
  condition := l.expr
  value := l.value
  container := ExprParser.filtered l.inner l.value <|> l.items

def inclusion : Parser Node := do
  let (e, names, optional) ← tag do
    literal "include"
    skip
    let names ← (do let s ← ExprParser.string; pure [s]) <|> texts
    skip
    let optional ← perhaps (literal "ignore missing")
    pure (names, optional.isSome)
  pure (.include e names optional)

/-- An assignment, in the scope or everywhere. -/
def assignment (x : Exprs) (word : String) (everywhere : Bool) : Parser Node := do
  let (e, n, v) ← tag do
    literal word
    skip
    let n ← nameString
    skip
    literal "="
    skip
    let v ← x.value
    pure (n, v)
  pure (.assign e everywhere n v)

/-- The tag that begins a loop: the names bound in it and what it runs through. -/
def loopTag (x : Exprs) : Parser (Edges × List String × Expr) := tag do
  literal "for"
  skip
  let first ← nameString
  let second ← perhaps (do skip; literal ","; skip; nameString)
  skip
  literal "in"
  skip
  let container ← x.container
  pure (first :: second.toList, container)

def parameter : Parser Parameter := do
  let n ← nameString
  let default ← perhaps do
    skip
    literal "="
    skip
    oneOf [Operand.bool <$> ExprParser.bool, Operand.text <$> ExprParser.string,
      Operand.float <$> ExprParser.float, Operand.int <$> ExprParser.int]
  pure ⟨n, default⟩

/-- The tag that begins a definition. -/
def definitionTag : Parser (Edges × String × List Parameter) := tag do
  literal "macro"
  skip
  let n ← nameString
  skip
  literal "("
  skip
  let parameters ← separated parameter
  skip
  literal ")"
  pure (n, parameters)

/-- The further arms of a branch up to its end, given how to read a body. -/
def armsOf (x : Exprs) (body : Parser (List Node)) : Nat → Parser Arms
  | 0 => fail
  | n + 1 => oneOf [
    do
      let (start, condition) ← tag (do literal "elif"; skip; x.condition)
      let b ← body
      let rest ← armsOf x body n
      pure (.arm start condition b rest),
    do
      let start ← wordTag "else"
      let b ← body
      let close ← wordTag "endif"
      pure (.otherwise start b close),
    Arms.close <$> wordTag "endif"]

/-- A part of a template at a place, down to a depth of nested bodies. -/
def part (x : Exprs) : Nat → Place → Parser Node
  | 0, _ => fail
  | n + 1, p =>
    let body (p : Place) : Parser (List Node) := many (part x n p)
    let inBlock : List (Parser Node) := [do let _ ← outputOf (literal "super()"); pure .overridden]
    let inLoop : List (Parser Node) :=
      [Node.leave <$> wordTag "break", Node.continue <$> wordTag "continue"]
    let block : Parser Node := do
      let (start, n) ← tag (do literal "block"; skip; nameString)
      let b ← body .block
      let close ← endTag "endblock"
      pure (.block start n b close)
    let loop : Parser Node := do
      let (start, names, container) ← loopTag x
      let b ← body .loop
      let empty ← perhaps (do let _ ← wordTag "else"; body .loop)
      let close ← wordTag "endfor"
      pure (.loop start names container b (empty.getD []) close)
    let branch : Parser Node := do
      let (start, condition) ← tag (do literal "if"; skip; x.condition)
      let b ← body p
      let rest ← armsOf x (body p) n
      pure (.branch (.arm start condition b rest))
    let filtered : Parser Node := do
      let (start, filter) ← tag do
        literal "filter"
        skip
        ExprParser.call x.value <|> (do let n ← nameString; pure (.mk n []))
      let b ← body .section
      let close ← wordTag "endfilter"
      pure (.filtered start filter b close)
    oneOf <| [inclusion] ++ (if p = .block then inBlock else [])
      ++ [do let (e, v) ← outputOf x.value; pure (.output e v), comment,
        assignment x "set" false, assignment x "set_global" true, loop, branch, filtered, raw]
      ++ (if p = .page || p = .block || p = .section then [block] else [])
      ++ (if p = .loop then inLoop else []) ++ [text]

def definition (x : Exprs) (depth : Nat) : Parser Node := do
  let (start, n, parameters) ← definitionTag
  let b ← many (part x depth .definition)
  let close ← endTag "endmacro"
  pure (.define start n parameters b close)

def parts? (source : List Char) : Option (List Node) :=
  let depth := source.length + 1
  let x := Exprs.of (ExprParser.level depth)
  match many (part x depth .page <|> definition x depth) source with
  | some (nodes, []) => some nodes
  | _ => none

end Stencil.Template.NodeParser
