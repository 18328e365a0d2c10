import Stencil.Text.Blank
import Stencil.Text.Utf8

set_option autoImplicit false
set_option relaxedAutoImplicit false

/-!
What a command writes, line by line. The bytes come in pieces; a line is noted when its end has come, and what
stands behind the last end is noted when nothing more comes.
-/

namespace Stencil.Upkeep.Output

open Stencil.Text

def lineEnd : UInt8 := 10

/-- A line as it is noted: what is no text is replaced, and blanks at the end are left out. -/
def noted (line : List UInt8) : String :=
  String.ofList (Blank.trimEnd (Utf8.decodeLossy line).toList)

/-- Lines that were completed, the latest first, and the bytes of one that was not, the latest first. -/
structure Reading where
  lines : List (List UInt8)
  rest : List UInt8
deriving DecidableEq, Repr

def Reading.start : Reading := ⟨[], []⟩

def Reading.byte (r : Reading) (b : UInt8) : Reading :=
  if b = lineEnd then ⟨(b :: r.rest).reverse :: r.lines, []⟩ else ⟨r.lines, b :: r.rest⟩

def Reading.piece (r : Reading) (bytes : List UInt8) : Reading := bytes.foldl Reading.byte r

def Reading.finish (r : Reading) : List (List UInt8) :=
  (if r.rest.isEmpty then r.lines else r.rest.reverse :: r.lines).reverse

def logged (pieces : List (List UInt8)) : List String :=
  (pieces.foldl Reading.piece Reading.start).finish.map noted

end Stencil.Upkeep.Output
