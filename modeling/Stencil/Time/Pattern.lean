import Stencil.Decimal.Fixed
import Stencil.Time.Moment

set_option autoImplicit false
set_option relaxedAutoImplicit false

/-!
Points in time written by a pattern of letters behind percent signs.
-/

namespace Stencil.Time.Pattern

open Stencil.Decimal Stencil.Time

def months : List String := ["January", "February", "March", "April", "May", "June", "July", "August",
  "September", "October", "November", "December"]

def weekdays : List String :=
  ["Sunday", "Monday", "Tuesday", "Wednesday", "Thursday", "Friday", "Saturday"]

def weekday (m : Moment) : Nat := ((m.dayNumber + 4) % 7).toNat

def dayOfYear (m : Moment) : Nat := (m.dayNumber - (Date.mk m.date.year 1 1).number).toNat

/-- The year to which the week of a day belongs, and the number of the week. A week belongs to the year of
its Thursday. -/
def week (m : Moment) : Int × Nat :=
  let thursday := m.dayNumber + 3 - (m.dayNumber + 3) % 7
  let year := (Date.ofNumber thursday).year
  (year, ((thursday - (Date.mk year 1 1).number) / 7 + 1).toNat)

inductive Padding
  | plain
  | blanked
  | zeroed

def field (p : Padding) (width n : Nat) : List Char :=
  match p with
  | .plain => Nat.toDigits 10 n
  | .zeroed => padded width n
  | .blanked =>
    let digits := Nat.toDigits 10 n
    List.replicate (width - digits.length) ' ' ++ digits

/-- The distance from universal time, with or without a colon. -/
def offset (colon : Bool) (n : Int) : List Char :=
  let minutes := n.natAbs / 60
  (if n < 0 then '-' else '+') :: padded 2 (minutes / 60) ++ (if colon then [':'] else [])
    ++ padded 2 (minutes % 60)

def hour12 (m : Moment) : Nat := (m.second / 3600 + 11) % 12 + 1

def yearText (p : Padding) (year : Int) : List Char :=
  if year < 0 then '-' :: field p 4 year.natAbs else field p 4 year.natAbs

def short (names : List String) (n : Nat) : List Char := (names.getD n "").toList.take 3

/-- What a letter stands for on its own; `padding` is given when the pattern asks for one. -/
def simple? (m : Moment) (padding : Option Padding) (c : Char) : Option (List Char) :=
  let d := m.date
  let zeroFilled := padding.getD .zeroed
  let blankFilled := padding.getD .blanked
  match c with
  | 'Y' => some (yearText zeroFilled d.year)
  | 'C' => some (field zeroFilled 2 (d.year / 100).toNat)
  | 'y' => some (field zeroFilled 2 (d.year % 100).toNat)
  | 'm' => some (field zeroFilled 2 d.month)
  | 'b' | 'h' => some (short months (d.month - 1))
  | 'B' => some (months.getD (d.month - 1) "").toList
  | 'd' => some (field zeroFilled 2 d.day)
  | 'e' => some (field blankFilled 2 d.day)
  | 'a' => some (short weekdays (weekday m))
  | 'A' => some (weekdays.getD (weekday m) "").toList
  | 'w' => some (field zeroFilled 1 (weekday m))
  | 'u' => some (field zeroFilled 1 ((weekday m + 6) % 7 + 1))
  | 'U' => some (field zeroFilled 2 ((dayOfYear m + 7 - weekday m) / 7))
  | 'W' => some (field zeroFilled 2 ((dayOfYear m + 7 - (weekday m + 6) % 7) / 7))
  | 'G' => some (yearText zeroFilled (week m).1)
  | 'g' => some (field zeroFilled 2 ((week m).1 % 100).toNat)
  | 'V' => some (field zeroFilled 2 (week m).2)
  | 'j' => some (field zeroFilled 3 (dayOfYear m + 1))
  | 'H' => some (field zeroFilled 2 (m.second / 3600))
  | 'k' => some (field blankFilled 2 (m.second / 3600))
  | 'I' => some (field zeroFilled 2 (hour12 m))
  | 'l' => some (field blankFilled 2 (hour12 m))
  | 'P' => some (if m.second < 43200 then "am" else "pm").toList
  | 'p' => some (if m.second < 43200 then "AM" else "PM").toList
  | 'M' => some (field zeroFilled 2 (m.second / 60 % 60))
  | 'S' => some (field zeroFilled 2 (m.second % 60))
  | 'f' => some (field zeroFilled 9 m.nanosecond)
  | 's' => some (toString m.seconds).toList
  | 'z' => m.offset?.map (offset false)
  | 'Z' => m.offset?.map (offset true)
  | 'n' => some ['\n']
  | 't' => some ['\t']
  | '%' => some ['%']
  | _ => none

def compound? : Char → Option (List Char)
  | 'D' | 'x' => some "%m/%d/%y".toList
  | 'F' => some "%Y-%m-%d".toList
  | 'v' => some "%e-%b-%Y".toList
  | 'R' => some "%H:%M".toList
  | 'T' | 'X' => some "%H:%M:%S".toList
  | 'r' => some "%I:%M:%S %p".toList
  | 'c' => some "%a %b %e %H:%M:%S %Y".toList
  | _ => none

/-- The fraction of a second behind a point, or nothing when there is none. -/
def fraction (m : Moment) : List Char :=
  if m.nanosecond = 0 then []
  else
    let digits := padded 9 m.nanosecond
    let digits := if (digits.drop 3).all (· == '0') then digits.take 3
      else if (digits.drop 6).all (· == '0') then digits.take 6
      else digits
    '.' :: digits

/-- The fraction of a second with a fixed count of places, when the pattern begins with one. -/
def places? (s : List Char) : Option (Nat × List Char) :=
  match s with
  | c :: 'f' :: r => if c = '3' ∨ c = '6' ∨ c = '9' then some (c.toNat - 48, r) else none
  | _ => none

/-- The point in time written by a pattern, or nothing when the pattern has no meaning for it. -/
def write (m : Moment) : Nat → List Char → Option (List Char)
  | 0, _ => none
  | _, [] => some []
  | n + 1, '%' :: '.' :: 'f' :: r => (write m n r).map (fraction m ++ ·)
  | n + 1, '%' :: ':' :: 'z' :: r => do
    let o ← m.offset?
    (write m n r).map (offset true o ++ ·)
  | n + 1, '%' :: '+' :: r => do
    let o ← m.offset?
    let date ← write m n "%Y-%m-%dT%H:%M:%S".toList
    (write m n r).map ((date ++ fraction m ++ offset true o) ++ ·)
  | n + 1, '%' :: '.' :: r =>
    match places? r with
    | some (k, r) => (write m n r).map (('.' :: (padded 9 m.nanosecond).take k) ++ ·)
    | none => none
  | n + 1, '%' :: '-' :: c :: r => do
    let field ← simple? m (some .plain) c
    (write m n r).map (field ++ ·)
  | n + 1, '%' :: '_' :: c :: r => do
    let field ← simple? m (some .blanked) c
    (write m n r).map (field ++ ·)
  | n + 1, '%' :: '0' :: c :: r => do
    let field ← simple? m (some .zeroed) c
    (write m n r).map (field ++ ·)
  | n + 1, '%' :: c :: r =>
    match places? (c :: r) with
    | some (k, r) => (write m n r).map ((padded 9 m.nanosecond).take k ++ ·)
    | none => do
      let field ← (simple? m none c).or ((compound? c).bind (write m n))
      (write m n r).map (field ++ ·)
  | _, ['%'] => none
  | n + 1, c :: r => (write m n r).map (c :: ·)

def format? (pattern : List Char) (m : Moment) : Option (List Char) :=
  write m (pattern.length + 20) pattern

end Stencil.Time.Pattern
