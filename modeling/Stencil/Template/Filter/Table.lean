import Stencil.Template.Filter.Date
import Stencil.Template.Filter.Escape
import Stencil.Template.Filter.Number
import Stencil.Template.Filter.Sequence
import Stencil.Template.Filter.Text

set_option autoImplicit false
set_option relaxedAutoImplicit false

/-!
All filters under their names.
-/

namespace Stencil.Template.Filter

def find? (name : String) : Option Filter :=
  (texts ++ escapes ++ numbers ++ sequences ++ [("date", date)]).lookup name

end Stencil.Template.Filter
