import Stencil.Decimal.Integer
import Stencil.Decimal.Binary
import Stencil.Template.Expr
import Stencil.Template.Parser

set_option autoImplicit false
set_option relaxedAutoImplicit false

/-!
The grammar of expressions. Each rule is given the parsers for what it contains in brackets and
parentheses; the two parsers at the end tie the rules together, down to a depth of nesting.
-/

namespace Stencil.Template.ExprParser

open Stencil.Template Stencil.Template.Parser Stencil.Decimal

/-- The parsers for what stands inside brackets: a whole expression, a sum in parentheses and a place. -/
structure Inner where
  expr : Parser Expr
  sum : Parser Operand
  place : Parser Place

/-- The digits of a whole number, without a needless zero in front. -/
def wholeDigits : Parser (List Char) := fun input =>
  match input with
  | '0' :: r => some (['0'], r)
  | c :: r => if c.isDigit then some (c :: r.takeWhile Char.isDigit, r.dropWhile Char.isDigit) else none
  | [] => none

def sign : Parser Bool := Option.isSome <$> perhaps (literal "-")

def int : Parser Int := do
  let negative ← sign
  let digits ← wholeDigits
  match signed64? (if negative then '-' :: digits else digits) with
  | some n => pure n
  | none => fail

/-- A number with a point and digits on both sides of it. -/
def float : Parser Float := do
  let negative ← sign
  let whole ← wholeDigits
  literal "."
  let fraction ← run1 Char.isDigit
  match natural? (whole ++ fraction) with
  | some n => pure (withSign negative (ofDecimal n (-(fraction.length : Int))))
  | none => fail

/-- A truth value. Its first letter may be a capital. -/
def bool : Parser Bool :=
  oneOf [word "true" true, word "false" false, word "True" true,
    word "False" false]

def string : Parser String := String.ofList <$> quoted

/-- A text between quotes as a key. A text in grave accents keeps them. -/
def quotedKey : Parser String := do
  let written ← taken quoted
  pure (String.ofList (if written.head? = some '\x60' then written else (written.drop 1).dropLast))

/-- A point and a name behind it, or an index in brackets: a number, a text or a place. -/
def step (inner : Inner) (p : Place) : Parser Place :=
  (do literal "."; let k ← run1 isNameChar; pure (.key p (String.ofList k)))
    <|> (do
      literal "["
      let q ← oneOf [
        do let k ← taken (do let _ ← sign; wholeDigits); pure (.key p (String.ofList k)),
        .key p <$> quotedKey,
        .at p <$> inner.place]
      literal "]"
      pure q)

def steps (inner : Inner) : Nat → Place → Parser Place
  | 0, p => pure p
  | n + 1, p => do
    match ← perhaps (step inner p) with
    | none => pure p
    | some q => steps inner n q

def place (inner : Inner) : Parser Place := do
  let n ← nameString
  fun input => steps inner input.length (.variable n) input

def arg (value : Parser Expr) : Parser Arg := do
  let n ← nameString
  skip
  literal "="
  skip
  let v ← value
  pure (.mk n v)

def args (value : Parser Expr) : Parser (List Arg) := do
  literal "("
  skip
  let as ← separated (arg value)
  skip
  literal ")"
  pure (lastOfEachName as)

def call (value : Parser Expr) : Parser Call := do
  let n ← nameString
  skip
  let as ← args value
  pure (.mk n as)

def filter (value : Parser Expr) : Parser Call := do
  literal "|"
  skip
  call value <|> (do let n ← nameString; pure (.mk n []))

def filters (value : Parser Expr) : Parser (List Call) := manySkipping (filter value)

/-- The value of an argument: an expression, or an array with filters. The array knows the operand
`item` of its items. -/
def array (item : Parser Expr) (value : Parser Expr) : Parser Expr := do
  literal "["
  skip
  let items ← separated item
  skip
  literal "]"
  let fs ← filters value
  pure (.mk (.array items) fs false)

/-- A test of a place, perhaps negated, perhaps with arguments. -/
def test (inner : Inner) (value : Parser Expr) : Parser Operand := do
  let p ← place inner
  skip
  literal "is"
  skip
  let plain (negated : Bool) : Parser Operand := do
    let n ← nameString
    skip
    let as ← perhaps do
      literal "("
      skip
      let first ← value
      let others ← manySkipping (do literal ","; skip; value)
      skip
      literal ")"
      pure (first :: others)
    pure (.test p n (as.getD []) negated)
  (do literal "not"; skip; plain true) <|> plain false

def expand (value : Parser Expr) : Parser Operand := do
  let lib ← nameString
  skip
  literal "::"
  skip
  let n ← nameString
  skip
  let as ← args value
  pure (.expand lib n as)

def part (inner : Inner) (value : Parser Expr) : Parser Operand :=
  oneOf [.call <$> call value, .float <$> float, .int <$> int, .text <$> string,
    .place <$> place inner]

def joined (inner : Inner) (value : Parser Expr) : Parser Operand := do
  let first ← part inner value
  skip
  literal "~"
  skip
  let second ← part inner value
  let others ← manySkipping (do literal "~"; skip; part inner value)
  pure (.joined (first :: second :: others))

def textExpr (inner : Inner) (value : Parser Expr) : Parser Expr := do
  let o ← joined inner value <|> (.text <$> string)
  let fs ← filters value
  pure (.mk o fs false)

def arithmeticOp : Parser Arithmetic :=
  oneOf [word "+" .add, word "-" .sub, word "*" .mul, word "/" .div,
    word "%" .mod]

def isTight : Arithmetic → Bool
  | .add | .sub => false
  | .mul | .div | .mod => true

/-- Groups operands and operators from the left, those of the tighter sort first: `pending` is the operand
so far on the looser level together with its operator, and `acc` the one on the tighter level. -/
def group {α ω : Type} (tight : ω → Bool) (node : ω → α → α → α) :
    Option (α × ω) → α → List (ω × α) → α
  | none, acc, [] => acc
  | some (lhs, op), acc, [] => node op lhs acc
  | pending, acc, (op, x) :: r =>
    if tight op then group tight node pending (node op acc x) r
    else
      let lhs := match pending with
        | none => acc
        | some (lhs, op) => node op lhs acc
      group tight node (some (lhs, op)) x r

def atom (inner : Inner) (value : Parser Expr) : Parser Operand :=
  oneOf [.bool <$> bool, test inner value, expand value, .call <$> call value,
    .place <$> place inner, .float <$> float, .int <$> int]

def sum (inner : Inner) (value : Parser Expr) : Parser Operand := do
  let single : Parser Operand :=
    (do literal "("; skip; let o ← inner.sum; skip; literal ")"; pure o) <|> atom inner value
  let first ← single
  let others ← manySkipping do
    let op ← arithmeticOp
    skip
    let o ← single
    pure (op, o)
  pure (group isTight (fun op a b => .arithmetic op a.toExpr b.toExpr) none first others)

def filtered (inner : Inner) (value : Parser Expr) : Parser Expr := do
  let o ← sum inner value
  let fs ← filters value
  pure (.mk o fs false)

def term (inner : Inner) (value : Parser Expr) : Parser Expr := do
  let first ← filtered inner value
  let others ← manySkipping do
    let op ← arithmeticOp
    skip
    let e ← filtered inner value
    pure (op, e)
  pure (group isTight (fun op a b => (Operand.arithmetic op a b).toExpr) none first others)

def comparisonOp : Parser Logic :=
  oneOf [word "<=" .le, word ">=" .ge, word ">" .gt, word "<" .lt,
    word "==" .eq, word "!=" .ne]

/-- One side of a comparison, or both. -/
def comparison (inner : Inner) (value : Parser Expr) : Parser Expr := do
  let side := textExpr inner value <|> term inner value
  let lhs ← side
  skip
  let rest ← perhaps do
    let op ← comparisonOp
    skip
    let rhs ← side
    pure (op, rhs)
  match rest with
  | none => pure lhs
  | some (op, rhs) => pure (Operand.logic op lhs rhs).toExpr

def keyword (word : String) : Parser Unit := do
  literal word
  let _ ← fun input => match input with
    | c :: r => if isLayout c then some (c, r) else none
    | [] => none

/-- Whether something is in a text, an array or an object. -/
def membership (inner : Inner) (value : Parser Expr) (items : Parser Expr) : Parser Expr := do
  let item ← textExpr inner value <|> filtered inner value
  skip
  let negated ← perhaps (keyword "not")
  skip
  literal "in"
  skip
  let container ←
    oneOf [textExpr inner value, items, (fun p => (Operand.place p).toExpr) <$> place inner]
  pure (Operand.member item container negated.isSome).toExpr

def logicOperand (inner : Inner) (value : Parser Expr) (items : Parser Expr) : Parser Expr :=
  (do
    let negated ← perhaps (keyword "not")
    skip
    let e ← membership inner value items <|> comparison inner value
    pure (e.withNegation negated.isSome))
  <|> (do
    literal "("
    skip
    let e ← inner.expr
    skip
    literal ")"
    pure (e.withNegation false))

/-- A connective binds more tightly when it is a conjunction. -/
def isConjunction : Logic → Bool
  | .and => true
  | _ => false

/-- An expression, given what may stand inside its brackets. -/
def exprOf (inner : Inner) (value items : Parser Expr) : Parser Expr := do
  let first ← logicOperand inner value items
  let others ← manySkipping do
    let op ← oneOf [do keyword "or"; pure Logic.or, do keyword "and"; pure Logic.and]
    skip
    let e ← logicOperand inner value items
    pure (op, e)
  pure (group isConjunction (fun op a b => (Operand.logic op a b).toExpr) none first others)

structure Level where
  expr : Parser Expr
  items : Parser Expr
  sum : Parser Operand
  place : Parser Place
  operand : Parser Expr

def Level.inner (l : Level) : Inner := ⟨l.expr, l.sum, l.place⟩

def Level.value (l : Level) : Parser Expr := l.expr <|> l.items

def Level.next (l : Unit → Level) : Level where
  expr := fun s => exprOf (l ()).inner (l ()).value (l ()).items s
  items := fun s => array (l ()).operand (l ()).value s
  sum := fun s => ExprParser.sum (l ()).inner (l ()).value s
  place := fun s => ExprParser.place (l ()).inner s
  operand := fun s => logicOperand (l ()).inner (l ()).value (l ()).items s

def level : Nat → Level
  | 0 => ⟨fail, fail, fail, fail, fail⟩
  | n + 1 => Level.next fun _ => level n

end Stencil.Template.ExprParser
