import Stencil.Shell.Printing
import Stencil.Filesystem.Access

set_option autoImplicit false
set_option relaxedAutoImplicit false

/-!
The conditions that `test` looks at: files, texts and numbers.
-/

namespace Stencil.Shell

inductive ConditionFault
  | missing (operator : Octets)
  | unexpected (word : Octets)
  | unclosed
  | number (word : Octets)
deriving DecidableEq, Repr

def ConditionFault.message : ConditionFault → String
  | .missing o => String.ofList o ++ ": argument expected"
  | .unexpected w => String.ofList w ++ ": unexpected operator"
  | .unclosed => "closing paren expected"
  | .number w => "Illegal number: " ++ String.ofList w

namespace Condition

open Stencil.Filesystem

def unaries : List String := [
  "-z", "-n", "-e", "-r", "-w", "-f", "-d", "-L", "-h", "-x", "-s", "-c", "-t", "-b", "-p", "-S", "-u", "-g",
  "-k", "-O", "-G"]

def binaries : List String := [
  "=", "!=", "<", ">", "-eq", "-ne", "-lt", "-le", "-gt", "-ge", "-nt", "-ot", "-ef"]

def isBinary (w : Octets) : Bool := binaries.contains (textOf w)

/-- The value of a condition on one argument. -/
def unary (v : View) (o : String) (s : Octets) : Bool :=
  let path := textOf s
  let found := v.entry path
  match o with
  | "-z" => s.isEmpty
  | "-n" => !s.isEmpty
  | "-e" | "-r" | "-w" | "-O" | "-G" => v.exists? path
  | "-f" => v.isFile path
  | "-d" => v.isDirectory path
  | "-L" | "-h" =>
    match resolve v.tree v.working false path with
    | .ok (.entry _ (.link _)) => true
    | _ => false
  | "-x" =>
    match found with
    | .ok (_, .file mode _) => mode &&& 0o111 ≠ 0
    | .ok (_, .directory) => true
    | _ => false
  | "-s" =>
    match found with
    | .ok (_, .file _ content) => !content.isEmpty
    | .ok (_, .directory) => true
    | _ => false
  | "-c" =>
    match found with
    | .ok (_, .sink) => true
    | _ => false
  | _ => false

/-- The value of a condition on two arguments. -/
def binary (v : View) (o : String) (a b : Octets) : Except ConditionFault Bool :=
  let number (w : Octets) : Except ConditionFault Int :=
    match Printing.decimal? w with
    | some n => .ok n
    | none => .error (.number w)
  let numbers (f : Int → Int → Bool) : Except ConditionFault Bool := do
    let m ← number a
    let n ← number b
    .ok (f m n)
  match o with
  | "=" => .ok (a = b)
  | "!=" => .ok (a ≠ b)
  | "<" => .ok (decide (String.ofList a < String.ofList b))
  | ">" => .ok (decide (String.ofList b < String.ofList a))
  | "-eq" => numbers fun m n => m = n
  | "-ne" => numbers fun m n => m ≠ n
  | "-lt" => numbers fun m n => m < n
  | "-le" => numbers fun m n => m ≤ n
  | "-gt" => numbers fun m n => m > n
  | "-ge" => numbers fun m n => m ≥ n
  | "-ef" =>
    match v.entry (textOf a), v.entry (textOf b) with
    | .ok (p, _), .ok (q, _) => .ok (p = q)
    | _, _ => .ok false
  | _ => .ok false

/-- A word at the front stands for itself and is no operator on one argument. -/
def isOperand : List Octets → Bool
  | [_] => true
  | _ :: o :: _ :: _ => isBinary o
  | _ => false

/-- A value, the last word that was used for it, and the words behind that. -/
abbrev Reading := Except ConditionFault (Bool × Octets × List Octets)

mutual

def either (v : View) : Nat → Octets → List Octets → Reading
  | 0, _, _ => .error .unclosed
  | n + 1, last, args => do
    let (a, last, r) ← both v n last args
    match r with
    | ['-', 'o'] :: r =>
      let (b, last, r) ← either v n ['-', 'o'] r
      .ok (a || b, last, r)
    | r => .ok (a, last, r)

def both (v : View) : Nat → Octets → List Octets → Reading
  | 0, _, _ => .error .unclosed
  | n + 1, last, args => do
    let (a, last, r) ← single v n last args
    match r with
    | ['-', 'a'] :: r =>
      let (b, last, r) ← both v n ['-', 'a'] r
      .ok (a && b, last, r)
    | r => .ok (a, last, r)

/-- One condition. Where there is none, it does not hold. -/
def single (v : View) : Nat → Octets → List Octets → Reading
  | 0, _, _ => .error .unclosed
  | n + 1, last, args =>
    match args with
    | [] => .ok (false, last, [])
    | ['!'] :: r => (single v n ['!'] r).map fun m => (!m.1, m.2)
    | ['('] :: [')'] :: r => .ok (false, [')'], r)
    | ['('] :: w :: r => do
      match ← either v n ['('] (w :: r) with
      | (x, _, [')'] :: r) => .ok (x, [')'], r)
      | _ => .error .unclosed
    | w :: r =>
      if unaries.contains (textOf w) && !isOperand args then
        match r with
        | s :: r => .ok (unary v (textOf w) s, s, r)
        | [] => .error (.missing w)
      else
        match r with
        | o :: r =>
          if isBinary o then
            match r with
            | b :: r => (binary v (textOf o) w b).map fun x => (x, b, r)
            | [] => .error (.missing o)
          else .ok (!w.isEmpty, w, o :: r)
        | [] => .ok (!w.isEmpty, w, [])

end

def whole (v : View) (args : List Octets) : Except ConditionFault Bool := do
  match ← either v (8 * args.length + 8) [] args with
  | (x, _, []) => .ok x
  | (_, last, _) => .error (.unexpected last)

/-- Whether arguments hold. With three or four of them their places tell their meaning. -/
def holds (v : View) (args : List Octets) : Except ConditionFault Bool :=
  let three (a o b : Octets) : Except ConditionFault Bool :=
    if isBinary o then binary v (textOf o) a b
    else if a = ['('] && b = [')'] then whole v [o]
    else if a = ['!'] then (whole v [o, b]).map fun x => !x
    else whole v [a, o, b]
  match args with
  | [] => .ok false
  | [a, o, b] => three a o b
  | [a, b, c, d] =>
    if a = ['('] && d = [')'] then whole v [b, c]
    else if a = ['!'] then (three b c d).map fun x => !x
    else whole v [a, b, c, d]
  | args => whole v args

end Condition

end Stencil.Shell
