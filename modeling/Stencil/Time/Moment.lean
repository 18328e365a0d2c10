import Stencil.Decimal.Integer

set_option autoImplicit false
set_option relaxedAutoImplicit false

/-!
Days of the calendar and points in time.
-/

namespace Stencil.Time

open Stencil.Decimal

structure Date where
  year : Int
  month : Nat
  day : Nat
deriving DecidableEq, Repr

def isLeap (year : Int) : Bool := year % 4 = 0 && (year % 100 ≠ 0 || year % 400 = 0)

def daysInMonth (year : Int) (month : Nat) : Nat :=
  if month = 2 then if isLeap year then 29 else 28
  else if month = 4 ∨ month = 6 ∨ month = 9 ∨ month = 11 then 30
  else 31

def Date.isValid (d : Date) : Bool :=
  1 ≤ d.month && d.month ≤ 12 && 1 ≤ d.day && d.day ≤ daysInMonth d.year d.month

/-- The number of days from the first of January 1970. Years are counted from March, so that the leap day is
the last one of its year. -/
def Date.number (d : Date) : Int :=
  let y := if d.month ≤ 2 then d.year - 1 else d.year
  let era := y / 400
  let yearOfEra := y % 400
  let month : Int := (d.month + 9) % 12
  let dayOfYear := (153 * month + 2) / 5 + d.day - 1
  era * 146097 + yearOfEra * 365 + yearOfEra / 4 - yearOfEra / 100 + dayOfYear - 719468

def Date.ofNumber (n : Int) : Date :=
  let z := n + 719468
  let era := z / 146097
  let dayOfEra := z % 146097
  let yearOfEra := (dayOfEra - dayOfEra / 1460 + dayOfEra / 36524 - dayOfEra / 146096) / 365
  let dayOfYear := dayOfEra - (365 * yearOfEra + yearOfEra / 4 - yearOfEra / 100)
  let month := (5 * dayOfYear + 2) / 153
  let day := dayOfYear - (153 * month + 2) / 5 + 1
  let m := if month < 10 then month + 3 else month - 9
  ⟨yearOfEra + era * 400 + (if m ≤ 2 then 1 else 0), m.toNat, day.toNat⟩

/-- A point in time on the clock of a zone, if one is known. -/
structure Moment where
  dayNumber : Int
  second : Nat
  nanosecond : Nat
  offset? : Option Int

def Moment.date (m : Moment) : Date := Date.ofNumber m.dayNumber

/-- Seconds since the beginning of 1970 as a point in time without a zone. -/
def Moment.ofSeconds (n : Int) : Moment := ⟨n / 86400, (n % 86400).toNat, 0, none⟩

def Moment.seconds (m : Moment) : Int := m.dayNumber * 86400 + m.second - m.offset?.getD 0

/-- A number of exactly so many digits, and the text behind it. -/
def digits (count : Nat) (s : List Char) : Option (Nat × List Char) :=
  let head := s.take count
  if head.length = count ∧ head.all Char.isDigit then (natural? head).map (·, s.drop count) else none

def behind (c : Char) : List Char → Option (List Char)
  | d :: r => if c = d then some r else none
  | [] => none

/-- A day written as year, month and day with dashes between. -/
def readDate (s : List Char) : Option (Date × List Char) := do
  let (year, s) ← digits 4 s
  let (month, s) ← digits 2 (← behind '-' s)
  let (day, s) ← digits 2 (← behind '-' s)
  let d : Date := ⟨year, month, day⟩
  if d.isValid then some (d, s) else none

def billionths (fraction : List Char) : Nat :=
  (natural? ((fraction ++ List.replicate 9 '0').take 9)).getD 0

/-- A time of the day as seconds and billionths, and the text behind it. -/
def readTime (s : List Char) : Option (Nat × Nat × List Char) := do
  let (hour, s) ← digits 2 s
  let (minute, s) ← digits 2 (← behind ':' s)
  let (second, s) ← digits 2 (← behind ':' s)
  let (nano, s) ← match s with
    | '.' :: r =>
      let fraction := r.takeWhile Char.isDigit
      if fraction.isEmpty then none else some (billionths fraction, r.dropWhile Char.isDigit)
    | s => some (0, s)
  if hour < 24 ∧ minute < 60 ∧ second < 60 then
    some (hour * 3600 + minute * 60 + second, nano, s)
  else none

/-- The distance of a zone from universal time in seconds. -/
def readOffset (s : List Char) : Option Int :=
  match s with
  | ['Z'] | ['z'] => some 0
  | sign :: r => do
    let (hours, r) ← digits 2 r
    let r := match r with
      | ':' :: r => r
      | r => r
    let (minutes, r) ← digits 2 r
    let n : Int := hours * 3600 + minutes * 60
    if !r.isEmpty || hours ≥ 24 || minutes ≥ 60 then none
    else if sign = '+' then some n
    else if sign = '-' then some (-n)
    else none
  | [] => none

/-- A day and a time of day with a `T` between, and perhaps a zone behind them. -/
def Moment.read? (s : List Char) : Option Moment := do
  let (date, s) ← readDate s
  let (second, nano, s) ← readTime (← behind 'T' s)
  if s.isEmpty then some ⟨date.number, second, nano, none⟩
  else
    let offset ← readOffset s
    some ⟨date.number, second, nano, some offset⟩

end Stencil.Time
