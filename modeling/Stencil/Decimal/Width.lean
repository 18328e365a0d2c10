set_option autoImplicit false
set_option relaxedAutoImplicit false

/-!
The integers of a fixed width, with a sign or without one.
-/

namespace Stencil.Decimal

/-- The integers of a width, from the least to the greatest. -/
structure Width where
  least : Int
  greatest : Int
deriving DecidableEq, Repr

namespace Width

def signed32 : Width := ⟨-2147483648, 2147483647⟩

def unsigned32 : Width := ⟨0, 4294967295⟩

def signed64 : Width := ⟨-9223372036854775808, 9223372036854775807⟩

def unsigned64 : Width := ⟨0, 18446744073709551615⟩

def holds (w : Width) (n : Int) : Bool := w.least ≤ n && n ≤ w.greatest

def clamp (w : Width) (n : Int) : Int := max w.least (min w.greatest n)

end Width

end Stencil.Decimal
