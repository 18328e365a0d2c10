set_option autoImplicit false
set_option relaxedAutoImplicit false

/-!
The leftmost occurrence of one text in another, and what is built on it: splitting and replacing.
-/

namespace Stencil.Text.Find

def byteLength (s : List Char) : Nat := s.foldr (fun c n => c.utf8Size + n) 0

@[simp] theorem byteLength_nil : byteLength [] = 0 := rfl

@[simp] theorem byteLength_cons (c : Char) (s : List Char) :
    byteLength (c :: s) = c.utf8Size + byteLength s := rfl

@[simp] theorem byteLength_append (s t : List Char) :
    byteLength (s ++ t) = byteLength s + byteLength t := by
  induction s with
  | nil => simp
  | cons c s ih => simp [ih, Nat.add_assoc]

/-- What remains of `s` after `needle`, when `s` begins with it. -/
def after? : List Char → List Char → Option (List Char)
  | [], s => some s
  | _ :: _, [] => none
  | n :: needle, c :: s => if n = c then after? needle s else none

theorem eq_append_of_after? {needle s r : List Char} (h : after? needle s = some r) :
    s = needle ++ r := by
  induction needle generalizing s with
  | nil => simpa [after?] using h
  | cons n needle ih =>
    cases s with
    | nil => simp [after?] at h
    | cons c s =>
      simp only [after?] at h
      split at h
      · rename_i hc
        simp [hc, ih h]
      · simp at h

theorem after?_append (needle r : List Char) : after? needle (needle ++ r) = some r := by
  induction needle with
  | nil => rfl
  | cons n needle ih => simp [after?, ih]

/-- The texts before and after the leftmost occurrence of `needle`. -/
def cut? (needle : List Char) : List Char → Option (List Char × List Char)
  | [] => (after? needle []).map (([], ·))
  | c :: s =>
    match after? needle (c :: s) with
    | some r => some ([], r)
    | none => (cut? needle s).map fun p => (c :: p.1, p.2)

theorem eq_append_of_cut? {needle s a b : List Char} (h : cut? needle s = some (a, b)) :
    s = a ++ needle ++ b := by
  induction s generalizing a with
  | nil =>
    simp only [cut?, Option.map_eq_some_iff, Prod.mk.injEq] at h
    obtain ⟨r, hr, rfl, rfl⟩ := h
    simpa using eq_append_of_after? hr
  | cons c s ih =>
    simp only [cut?] at h
    split at h
    · rename_i r hr
      simp only [Option.some.injEq, Prod.mk.injEq] at h
      obtain ⟨rfl, rfl⟩ := h
      simpa using eq_append_of_after? hr
    · simp only [Option.map_eq_some_iff, Prod.mk.injEq] at h
      obtain ⟨⟨a', b'⟩, hp, rfl, rfl⟩ := h
      simp [ih hp]

theorem length_of_cut? {needle s a b : List Char} (h : cut? needle s = some (a, b)) :
    a.length + needle.length + b.length = s.length := by
  rw [eq_append_of_cut? h]
  simp [Nat.add_assoc]

def occurs (needle s : List Char) : Bool := (cut? needle s).isSome

/-- The parts of a text between the occurrences of a separator, from left to right. An empty separator
occurs before every character and at the end. -/
def splitBy (separator : List Char) (s : List Char) : List (List Char) :=
  match separator with
  | [] => [] :: s.map ([·]) ++ [[]]
  | c :: separator =>
    match _h : cut? (c :: separator) s with
    | none => [s]
    | some (a, b) => a :: splitBy (c :: separator) b
termination_by s.length
decreasing_by
  have := length_of_cut? _h
  simp only [List.length_cons] at this
  omega

/-- The text with every occurrence of `source`, found from left to right, replaced. -/
def replaceAll (source target s : List Char) : List Char :=
  List.intercalate target (splitBy source s)

end Stencil.Text.Find
