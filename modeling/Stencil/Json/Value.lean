import Stencil.Json.Number

set_option autoImplicit false
set_option relaxedAutoImplicit false

/-!
JSON documents. The members of an object are kept in ascending order of their keys, each key once.
-/

namespace Stencil.Json

inductive Value
  | null
  | bool (b : Bool)
  | num (n : Number)
  | str (s : String)
  | arr (items : List Value)
  | obj (members : List (String × Value))
deriving Inhabited

def Value.ofInt (n : Int) : Value := .num (.int n)

def Value.ofNat (n : Nat) : Value := .num (.int n)

/-- A float as a document; one that is not finite has no number, and becomes `null`. -/
def Value.ofFloat (x : Float) : Value := ((Number.ofFloat? x).map Value.num).getD .null

/-- Puts a member into a list in ascending order of keys, in place of one with the same key. -/
def insertMember (key : String) (value : Value) : List (String × Value) → List (String × Value)
  | [] => [(key, value)]
  | (k, v) :: r =>
    if key < k then (key, value) :: (k, v) :: r
    else if key = k then (key, value) :: r
    else (k, v) :: insertMember key value r

/-- The object with the given members; of two with one key the later counts. -/
def Value.ofMembers (members : List (String × Value)) : Value :=
  .obj (members.foldl (fun acc m => insertMember m.1 m.2 acc) [])

def Value.members? : Value → Option (List (String × Value))
  | .obj m => some m
  | _ => none

def Value.get? (key : String) : Value → Option Value
  | .obj m => m.lookup key
  | _ => none

def Value.str? : Value → Option String
  | .str s => some s
  | _ => none

def Value.bool? : Value → Option Bool
  | .bool b => some b
  | _ => none

def Value.items? : Value → Option (List Value)
  | .arr xs => some xs
  | _ => none

def Value.num? : Value → Option Number
  | .num n => some n
  | _ => none

mutual

def Value.beq : Value → Value → Bool
  | .null, .null => true
  | .bool a, .bool b => a == b
  | .num a, .num b => a == b
  | .str a, .str b => a == b
  | .arr a, .arr b => beqItems a b
  | .obj a, .obj b => beqMembers a b
  | _, _ => false

def beqItems : List Value → List Value → Bool
  | [], [] => true
  | a :: r, b :: s => a.beq b && beqItems r s
  | _, _ => false

def beqMembers : List (String × Value) → List (String × Value) → Bool
  | [], [] => true
  | (k, a) :: r, (l, b) :: s => k == l && a.beq b && beqMembers r s
  | _, _ => false

end

instance : BEq Value := ⟨Value.beq⟩

end Stencil.Json
