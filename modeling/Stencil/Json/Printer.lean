import Stencil.Json.Value

set_option autoImplicit false
set_option relaxedAutoImplicit false

/-!
JSON documents as text: on one line, or with one item a line and an indentation of two blanks for each
level.
-/

namespace Stencil.Json.Printer

/-- A character as it stands inside a JSON string. -/
def escapeChar (c : Char) : List Char :=
  if c = '"' then ['\\', '"']
  else if c = '\\' then ['\\', '\\']
  else if c = '\n' then ['\\', 'n']
  else if c = '\r' then ['\\', 'r']
  else if c = '\t' then ['\\', 't']
  else if c = '\x08' then ['\\', 'b']
  else if c = '\x0c' then ['\\', 'f']
  else if c.toNat < 0x20 then
    ['\\', 'u', '0', '0'] ++ (if c.toNat < 0x10 then ['0'] else []) ++ Nat.toDigits 16 c.toNat
  else [c]

def quote (s : String) : String := String.ofList ('"' :: s.toList.flatMap escapeChar ++ ['"'])

mutual

def compact : Value → String
  | .null => "null"
  | .bool b => if b then "true" else "false"
  | .num n => n.toText
  | .str s => quote s
  | .arr xs => "[" ++ compactItems xs ++ "]"
  | .obj m => "\x7b" ++ compactMembers m ++ "\x7d"

def compactItems : List Value → String
  | [] => ""
  | [x] => compact x
  | x :: y :: r => compact x ++ "," ++ compactItems (y :: r)

def compactMembers : List (String × Value) → String
  | [] => ""
  | [(k, x)] => quote k ++ ":" ++ compact x
  | (k, x) :: y :: r => quote k ++ ":" ++ compact x ++ "," ++ compactMembers (y :: r)

end

def newLine (level : Nat) : String := String.ofList ('\n' :: List.replicate (2 * level) ' ')

mutual

/-- The document over several lines, starting at a level. An empty array or object stays on one line. -/
def indented (level : Nat) : Value → String
  | .null => "null"
  | .bool b => if b then "true" else "false"
  | .num n => n.toText
  | .str s => quote s
  | .arr [] => "[]"
  | .arr (x :: xs) => "[" ++ indentedItems (level + 1) (x :: xs) ++ newLine level ++ "]"
  | .obj [] => "\x7b\x7d"
  | .obj (m :: ms) => "\x7b" ++ indentedMembers (level + 1) (m :: ms) ++ newLine level ++ "\x7d"

def indentedItems (level : Nat) : List Value → String
  | [] => ""
  | [x] => newLine level ++ indented level x
  | x :: y :: r => newLine level ++ indented level x ++ "," ++ indentedItems level (y :: r)

/-- The members of an object, each on a line of its own. -/
def indentedMembers (level : Nat) : List (String × Value) → String
  | [] => ""
  | [(k, x)] => newLine level ++ quote k ++ ": " ++ indented level x
  | (k, x) :: y :: r =>
    newLine level ++ quote k ++ ": " ++ indented level x ++ "," ++ indentedMembers level (y :: r)

end

def pretty (x : Value) : String := indented 0 x

end Stencil.Json.Printer
