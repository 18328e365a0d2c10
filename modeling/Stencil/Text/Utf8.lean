set_option autoImplicit false
set_option relaxedAutoImplicit false

/-!
Reading bytes as UTF-8. An ill-formed sequence is cut off at the first byte that cannot continue it, and
counts as one replacement character.
-/

namespace Stencil.Text.Utf8

/-- What a lead byte announces: the number of bytes that follow and the bounds of the first of them. -/
structure Lead where
  following : Nat
  low : Nat
  high : Nat

/-- The announcement of a lead byte outside ASCII, if it can begin a character at all. -/
def lead? (b : Nat) : Option Lead :=
  if 0xC2 ≤ b ∧ b ≤ 0xDF then some ⟨1, 0x80, 0xBF⟩
  else if b = 0xE0 then some ⟨2, 0xA0, 0xBF⟩
  else if b = 0xED then some ⟨2, 0x80, 0x9F⟩
  else if 0xE1 ≤ b ∧ b ≤ 0xEF then some ⟨2, 0x80, 0xBF⟩
  else if b = 0xF0 then some ⟨3, 0x90, 0xBF⟩
  else if 0xF1 ≤ b ∧ b ≤ 0xF3 then some ⟨3, 0x80, 0xBF⟩
  else if b = 0xF4 then some ⟨3, 0x80, 0x8F⟩
  else none

/-- Reads continuation bytes onto the bits read so far. The rest begins after the last byte that fits. -/
def follow : Nat → Nat → Nat → Nat → List UInt8 → Option Nat × List UInt8
  | 0, _, _, bits, r => (some bits, r)
  | _ + 1, _, _, _, [] => (none, [])
  | n + 1, low, high, bits, b :: r =>
    if low ≤ b.toNat ∧ b.toNat ≤ high then follow n 0x80 0xBF (bits * 64 + (b.toNat - 0x80)) r
    else (none, b :: r)

theorem length_follow_le (n low high bits : Nat) (r : List UInt8) :
    (follow n low high bits r).2.length ≤ r.length := by
  induction r generalizing n low high bits with
  | nil => cases n <;> simp [follow]
  | cons b r ih =>
    cases n with
    | zero => simp [follow]
    | succ n =>
      simp only [follow]
      split
      · exact Nat.le_succ_of_le (ih ..)
      · exact Nat.le_refl _

def leadBits (b following : Nat) : Nat :=
  match following with
  | 1 => b - 0xC0
  | 2 => b - 0xE0
  | _ => b - 0xF0

/-- The characters of the bytes in order, `none` for each ill-formed sequence. -/
def characters : List UInt8 → List (Option Char)
  | [] => []
  | b :: r =>
    if b.toNat < 0x80 then some (Char.ofNat b.toNat) :: characters r
    else
      match lead? b.toNat with
      | none => none :: characters r
      | some l =>
        let read := follow l.following l.low l.high (leadBits b.toNat l.following) r
        read.1.map Char.ofNat :: characters read.2
termination_by bytes => bytes.length
decreasing_by
  · simp
  · simp
  · exact Nat.lt_succ_of_le (length_follow_le ..)

def decode? (bytes : List UInt8) : Option String := ((characters bytes).mapM id).map String.ofList

/-- The text of the bytes with a replacement character for each ill-formed sequence. -/
def decodeLossy (bytes : List UInt8) : String :=
  String.ofList ((characters bytes).map (·.getD '\ufffd'))

def encode (s : String) : List UInt8 := s.toUTF8.data.toList

end Stencil.Text.Utf8
