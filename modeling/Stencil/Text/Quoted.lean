import Stencil.Text.CharRanges
import Stencil.Text.VisibleTable

set_option autoImplicit false
set_option relaxedAutoImplicit false

/-!
Texts between double quotes, in which every character is visible: quotes and backslashes carry a
backslash, the usual control characters have a letter, and what cannot be seen is written as its code
point in hexadecimal digits.
-/

namespace Stencil.Text.Quoted

def isVisible (c : Char) : Bool :=
  if c.toNat < 0x7f then 0x20 ≤ c.toNat
  else !CharRanges.contains VisibleTable.graphemeExtend c
    && !CharRanges.contains VisibleTable.unprintable c

/-- The code point in lower-case hexadecimal digits, without leading zeros. -/
def hexDigits (c : Char) : List Char := Nat.toDigits 16 c.toNat

def encodeChar (c : Char) : List Char :=
  match c with
  | '\x00' => ['\\', '0']
  | '\t' => ['\\', 't']
  | '\r' => ['\\', 'r']
  | '\n' => ['\\', 'n']
  | '\\' => ['\\', '\\']
  | '"' => ['\\', '"']
  | _ => if isVisible c then [c] else ['\\', 'u', '\x7b'] ++ hexDigits c ++ ['\x7d']

def encode (s : List Char) : List Char := '"' :: s.flatMap encodeChar ++ ['"']

def quote (s : String) : String := String.ofList (encode s.toList)

end Stencil.Text.Quoted
