import Stencil.Decimal.Fixed
import Stencil.Decimal.Reading
import Stencil.Shell.Arithmetic
import Stencil.Shell.State

set_option autoImplicit false
set_option relaxedAutoImplicit false

/-!
The texts that `echo` and `printf` write.
-/

namespace Stencil.Shell.Printing

/-- The character that up to so many octal digits stand for, and what follows them. -/
def octal (most : Nat) (s : Octets) : Char × Octets :=
  let digits := (s.take most).takeWhile fun c => '0' ≤ c && c ≤ '7'
  (Char.ofNat ((digits.foldl (fun n c => n * 8 + (c.toNat - 48)) 0) % 256), s.drop digits.length)

/-- The character that a letter behind a backslash stands for. -/
def escape? : Char → Option Char
  | 'a' => some '\x07'
  | 'b' => some '\x08'
  | 'e' => some '\x1b'
  | 'f' => some '\x0c'
  | 'n' => some '\n'
  | 'r' => some '\r'
  | 't' => some '\t'
  | 'v' => some '\x0b'
  | '\\' => some '\\'
  | _ => none

/-- A text with its escapes carried out, and whether one of them ends all output. Octal digits follow a zero. -/
def escaped : Nat → Octets → Octets × Bool
  | 0, _ => ([], false)
  | n + 1, s =>
    match s with
    | '\\' :: 'c' :: _ => ([], true)
    | '\\' :: '0' :: r =>
      let (c, r) := octal 3 r
      let (t, stop) := escaped n r
      (c :: t, stop)
    | '\\' :: c :: r =>
      if '1' ≤ c && c ≤ '7' then
        let (x, r) := octal 3 (c :: r)
        let (t, stop) := escaped n r
        (x :: t, stop)
      else
        match escape? c with
        | some x =>
          let (t, stop) := escaped n r
          (x :: t, stop)
        | none =>
          let (t, stop) := escaped n (c :: r)
          ('\\' :: t, stop)
    | c :: r =>
      let (t, stop) := escaped n r
      (c :: t, stop)
    | [] => ([], false)

def echo (args : List Octets) : Octets :=
  let (open_, args) := match args with
    | ['-', 'n'] :: r => (true, r)
    | r => (false, r)
  let text := [' '].intercalate args
  let (text, stop) := escaped (text.length + 1) text
  text ++ if stop || open_ then [] else ['\n']

structure Fitting where
  left : Bool
  zeros : Bool
  sign : Octets
  marked : Bool
  width : Nat
  precision : Option Nat

def Fitting.pad (f : Fitting) (s : Octets) : Octets :=
  let missing := f.width - s.length
  if f.left then s ++ List.replicate missing ' '
  else if f.zeros then
    match s with
    | '-' :: r => '-' :: List.replicate missing '0' ++ r
    | '+' :: r => '+' :: List.replicate missing '0' ++ r
    | s => List.replicate missing '0' ++ s
  else List.replicate missing ' ' ++ s

/-- Why an argument is not the number that it should be. -/
inductive PrintFault
  | notNumeric (argument : Octets)
  | incomplete (argument : Octets)
  | directive (text : Octets)
deriving DecidableEq, Repr

def PrintFault.message : PrintFault → String
  | .notNumeric a => textOf a ++ ": expected numeric value"
  | .incomplete a => textOf a ++ ": not completely converted"
  | .directive t => "%" ++ textOf t ++ ": invalid directive"

/-- The longest number at the front of a text, and what stands behind it. -/
def numberPrefix (s : Octets) : Option Int × Octets :=
  let (sign, body) : Int × Octets := match s with
    | '-' :: r => (-1, r)
    | '+' :: r => (1, r)
    | r => (1, r)
  let isHex (c : Char) : Bool := c.isDigit || ('a' ≤ c.toLower && c.toLower ≤ 'f')
  let digits := match body with
    | '0' :: x :: r => if x == 'x' || x == 'X' then '0' :: x :: r.takeWhile isHex
      else (body.takeWhile fun c => '0' ≤ c && c ≤ '7')
    | _ => body.takeWhile Char.isDigit
  ((Arithmetic.number? digits).map fun n => sign * n, body.drop digits.length)

/-- The number that an argument writes, and what is wrong with it. A quote stands for the number of what
follows. -/
def argument (s : Octets) : Int × Option PrintFault :=
  match s with
  | [] => (0, none)
  | '\'' :: c :: _ | '"' :: c :: _ => ((c.toNat : Int), none)
  | s =>
    match numberPrefix s with
    | (some n, []) => (n, none)
    | (some n, _) => (n, some (.incomplete s))
    | (none, _) => (0, some (.notNumeric s))

/-- The decimal integer that a text writes, perhaps between blanks. -/
def decimal? (s : Octets) : Option Int :=
  let isSpace (c : Char) : Bool := c == ' ' || c == '\t' || c == '\n'
  let s := (s.dropWhile isSpace).reverse.dropWhile isSpace |>.reverse
  let (sign, body) : Int × Octets := match s with
    | '-' :: r => (-1, r)
    | '+' :: r => (1, r)
    | r => (1, r)
  (Decimal.natural? body).bind fun n => if Decimal.Width.signed64.holds n then some (sign * n) else none

/-- The text of one directive with its argument, and what is wrong with the argument. -/
def directive (f : Fitting) (c : Char) (arg : Octets) : Octets × Option PrintFault :=
  let (n, fault) := argument arg
  let unsigned : Nat := (n % 18446744073709551616).toNat
  let filled (d : Octets) : Octets :=
    match f.precision with
    | some p => List.replicate (p - d.length) '0' ++ d
    | none => d
  let digits (base : Nat) : Octets := filled (Nat.toDigits base unsigned)
  let mark (s : String) : Octets := if f.marked && n ≠ 0 then s.toList else []
  let cut (s : Octets) : Octets := match f.precision with
    | some p => s.take p
    | none => s
  match c with
  | 's' => ({ f with zeros := false }.pad (cut arg), none)
  | 'c' => ({ f with zeros := false }.pad (arg.take 1), none)
  | 'd' | 'i' => (f.pad ((if n < 0 then ['-'] else f.sign) ++ filled (Nat.toDigits 10 n.natAbs)), fault)
  | 'u' => (f.pad (digits 10), fault)
  | 'o' => (f.pad (mark "0" ++ digits 8), fault)
  | 'x' => (f.pad (mark "0x" ++ digits 16), fault)
  | 'X' => (f.pad (mark "0X" ++ (digits 16).map Char.toUpper), fault)
  | 'f' | 'F' =>
    let (x, fault) := if arg.isEmpty then ((0.0 : Float), none)
      else match Decimal.float? arg with
        | some x => (x, none)
        | none => (0.0, some (PrintFault.notNumeric arg))
    let text := (Decimal.fixed (f.precision.getD 6) x).toList
    (f.pad (if text.head? = some '-' then text else f.sign ++ text), fault)
  | c => ([], some (.directive [c]))

/-- What has been printed, the arguments that are left, and how it goes on. -/
structure Printed where
  text : Octets
  args : List Octets
  used : Bool
  faults : List PrintFault
  stopped : Bool

/-- A number in a format, which an argument may give. -/
def measure (s : Octets) (args : List Octets) : Option Int × Octets × List Octets :=
  match s with
  | '*' :: r => (some (argument (args.headD [])).1, r, args.drop 1)
  | s =>
    let digits := s.takeWhile Char.isDigit
    ((Decimal.natural? digits).map fun n => (n : Int), s.drop digits.length, args)

/-- The flags, the width and the precision of a directive. -/
def fitting (s : Octets) (args : List Octets) : Fitting × Octets × List Octets :=
  let isFlag (c : Char) : Bool := c == '-' || c == '0' || c == ' ' || c == '+' || c == '#'
  let flags := s.takeWhile isFlag
  let (width, s, args) := measure (s.dropWhile isFlag) args
  let (precision, s, args) := match s with
    | '.' :: r =>
      let (p, r, args) := measure r args
      (some (p.getD 0), r, args)
    | r => (none, r, args)
  let width := width.getD 0
  let left := flags.contains '-' || width < 0
  let sign := if flags.contains '+' then ['+'] else if flags.contains ' ' then [' '] else []
  (⟨left, flags.contains '0' && !left, sign, flags.contains '#', width.natAbs,
    precision.bind fun p => if p < 0 then none else some p.toNat⟩, s, args)

def pass : Nat → Octets → Printed → Printed
  | 0, _, p => p
  | n + 1, s, p =>
    match s with
    | [] => p
    | '%' :: '%' :: r => pass n r { p with text := p.text ++ ['%'] }
    | '%' :: r =>
      let (f, r, args) := fitting r p.args
      match r with
      | [] => { p with faults := p.faults ++ [.directive []], stopped := true }
      | c :: r =>
        let arg := args.headD []
        if c = 'b' then
          let (t, stop) := escaped (arg.length + 1) arg
          let p := { p with text := p.text ++ f.pad t, args := args.drop 1, used := true, stopped := stop }
          if stop then p else pass n r p
        else
          let (t, fault) := directive f c arg
          let p := { p with
            text := p.text ++ t, args := args.drop 1, used := true, faults := p.faults ++ fault.toList }
          match fault with
          | some (.directive _) => { p with stopped := true }
          | _ => pass n r p
    | '\\' :: c :: r =>
      if '0' ≤ c && c ≤ '7' then
        let (x, r) := octal 3 (c :: r)
        pass n r { p with text := p.text ++ [x] }
      else
        match escape? c with
        | some x => pass n r { p with text := p.text ++ [x] }
        | none => pass n r { p with text := p.text ++ ['\\', c] }
    | c :: r => pass n r { p with text := p.text ++ [c] }

/-- Goes through a format again while it uses up arguments and some are left. -/
def passes (format : Octets) : Nat → Printed → Printed
  | 0, p => p
  | n + 1, p =>
    let p := pass (format.length + 1) format p
    if p.stopped || p.args.isEmpty || !p.used then p else passes format n p

def printf (format : Octets) (args : List Octets) : Octets × List PrintFault :=
  let p := passes format (args.length + 1) ⟨[], args, false, [], false⟩
  (p.text, p.faults)

end Stencil.Shell.Printing
