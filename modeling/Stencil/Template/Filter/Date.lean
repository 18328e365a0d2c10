import Stencil.Template.Filter.Argument
import Stencil.Time.Pattern

set_option autoImplicit false
set_option relaxedAutoImplicit false

/-!
The filter that writes points in time.
-/

namespace Stencil.Template.Filter

open Stencil.Json Stencil.Time

/-- A point in time given as seconds, as a day, or as a day and a time. -/
def moment? : Value → Option Moment
  | .num (.int n) => some (Moment.ofSeconds n)
  | .str s =>
    if s.toList.contains 'T' then Moment.read? s.toList
    else
      match readDate s.toList with
      | some (d, []) => some ⟨d.number, 0, 0, none⟩
      | _ => none
  | _ => none

def universal (m : Moment) : Moment :=
  { Moment.ofSeconds m.seconds with nanosecond := m.nanosecond, offset? := some 0 }

/-- A point in time written by a pattern, in its own zone or in the universal one. -/
def date : Filter := fun v args => do
  let pattern ← argument? "date" "format" chars? args
  let zone ← argument? "date" "timezone" Value.str? args
  let m ← input "date" moment? v
  let m ← match zone with
    | none => .ok m
    | some z =>
      if z == "UTC" || z == "Etc/UTC" || z == "GMT" then .ok (universal m)
      else .error (.wrongArgument .filter "date" "timezone")
  match Pattern.format? (pattern.getD "%Y-%m-%d".toList) m with
  | some s => pure (ofChars s)
  | none => .error (.wrongArgument .filter "date" "format")

end Stencil.Template.Filter
