import Stencil.Decimal.Shortest
import Stencil.Decimal.Width

set_option autoImplicit false
set_option relaxedAutoImplicit false

/-!
Numbers of a JSON document: 64-bit integers, signed or unsigned, and finite floats.
-/

namespace Stencil.Json

open Stencil.Decimal

/-- A 64-bit integer, signed or unsigned, or a finite float. -/
inductive Number
  | int (n : Int)
  | real (x : Float)
deriving Repr

def isSigned (n : Int) : Bool := Width.signed64.holds n

def isUnsigned (n : Int) : Bool := Width.unsigned64.holds n

/-- The value as a signed 64-bit integer. A float is none, also when it is whole. -/
def Number.signed? : Number → Option Int
  | .int n => if isSigned n then some n else none
  | .real _ => none

def Number.unsigned? : Number → Option Int
  | .int n => if isUnsigned n then some n else none
  | .real _ => none

def Number.toFloat : Number → Float
  | .int n => ofInt n
  | .real x => x

def Number.ofFloat? (x : Float) : Option Number := if x.isFinite then some (.real x) else none

/-- An integer and a float differ, whatever their values; two floats are equal as floats. -/
def Number.beq : Number → Number → Bool
  | .int m, .int n => m = n
  | .real x, .real y => x == y
  | _, _ => false

instance : BEq Number := ⟨Number.beq⟩

def Number.toText : Number → String
  | .int n => toString n
  | .real x => pointed x

/-- The number as running text shows it, without an exponent and without a fraction of zero. -/
def Number.plain : Number → String
  | .int n => toString n
  | .real x => positional x

end Stencil.Json
