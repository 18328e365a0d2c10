import Stencil.Text.Utf8

set_option autoImplicit false
set_option relaxedAutoImplicit false

/-!
Bytes behind percent signs, as addresses hold them, and the form that a text has as a parameter of an address.
-/

namespace Stencil.Text.Percent

def hexDigit (n : Nat) : Char := ((Nat.toDigits 16 n).headD '0').toUpper

/-- The value of a hexadecimal digit, upper or lower case. -/
def hexValue? (c : Char) : Option Nat :=
  if '0' ≤ c ∧ c ≤ '9' then some (c.toNat - 48)
  else if 'A' ≤ c ∧ c ≤ 'F' then some (c.toNat - 55)
  else if 'a' ≤ c ∧ c ≤ 'f' then some (c.toNat - 87)
  else none

def ofByte (b : UInt8) : List Char := ['%', hexDigit (b.toNat / 16), hexDigit (b.toNat % 16)]

def isPlain (b : UInt8) : Bool :=
  let c := Char.ofNat b.toNat
  c.isAlphanum || c == '*' || c == '-' || c == '.' || c == '_'

def escapeByte (b : UInt8) : List Char :=
  if isPlain b then [Char.ofNat b.toNat] else if b = 0x20 then ['+'] else ofByte b

def escape (s : String) : List Char := (Utf8.encode s).flatMap escapeByte

/-- The bytes that a parameter holds. A percent sign without two digits stands for itself. -/
def bytesOf : List Char → List UInt8
  | [] => []
  | '%' :: a :: b :: r =>
    match hexValue? a, hexValue? b with
    | some x, some y => UInt8.ofNat (16 * x + y) :: bytesOf r
    | _, _ => 0x25 :: bytesOf (a :: b :: r)
  | '+' :: r => 0x20 :: bytesOf r
  | c :: r => String.utf8EncodeChar c ++ bytesOf r

def unescape (s : List Char) : String := Utf8.decodeLossy (bytesOf s)

end Stencil.Text.Percent
