import Stencil.Template.Parser

set_option autoImplicit false
set_option relaxedAutoImplicit false

/-!
What the combinators of parsers do with an input.
-/

namespace Stencil.Template.Parser

open Stencil.Text

variable {α β : Type}

@[simp] theorem pure_apply (a : α) (s : List Char) : (pure a : Parser α) s = some (a, s) := rfl

@[simp] theorem bind_apply (p : Parser α) (f : α → Parser β) (s : List Char) :
    (p >>= f) s = (p s).bind fun m => f m.1 m.2 := rfl

@[simp] theorem map_apply (f : α → β) (p : Parser α) (s : List Char) :
    (f <$> p) s = (p s).map fun m => (f m.1, m.2) := by
  cases h : p s <;> simp [Functor.map, StateT.map, h]

@[simp] theorem orElse_apply (p q : Parser α) (s : List Char) : (p <|> q) s = (p s).or (q s) :=
  Option.orElse_eq_or

@[simp] theorem oneOf_nil (s : List Char) : oneOf ([] : List (Parser α)) s = none := rfl

@[simp] theorem oneOf_cons (p : Parser α) (ps : List (Parser α)) (s : List Char) :
    oneOf (p :: ps) s = (p s).or (oneOf ps s) := by
  rw [oneOf, orElse_apply]

@[simp] theorem skip_apply (s : List Char) : skip s = some ((), s.dropWhile isLayout) := rfl

theorem many_of_none {p : Parser α} {s : List Char} (h : p s = none) : many p s = some ([], s) := by
  rw [many, h]

theorem many_of_some {p : Parser α} {s r : List Char} {a : α} (h : p s = some (a, r)) (hlength : r.length < s.length) :
    many p s = (many p r).map fun m => (a :: m.1, m.2) := by
  rw [many, h]
  simp [hlength]

end Stencil.Template.Parser
