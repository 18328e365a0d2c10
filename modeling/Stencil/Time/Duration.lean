import Stencil.Decimal.Integer
import Stencil.Text.Blank

set_option autoImplicit false
set_option relaxedAutoImplicit false

/-!
Lengths of time: how they are written, in numbers with units, and how they are read.
-/

namespace Stencil.Time

open Stencil.Text

/-- A length of time: seconds, and nanoseconds below a second. -/
structure Duration where
  seconds : Nat
  nanoseconds : Nat
deriving DecidableEq, Repr

namespace Duration

def zero : Duration := ⟨0, 0⟩

def isZero (d : Duration) : Bool := d.seconds = 0 && d.nanoseconds = 0

def ofMilliseconds (n : Nat) : Duration := ⟨n / 1000, n % 1000 * 1000000⟩

def toNanoseconds (d : Duration) : Nat := d.seconds * 1000000000 + d.nanoseconds

/-- A length in nanoseconds, if its seconds fit into 64 bits. -/
def ofNanoseconds? (n : Nat) : Option Duration :=
  if Decimal.Width.unsigned64.holds (n / 1000000000 : Nat) then some ⟨n / 1000000000, n % 1000000000⟩ else none

/-- The units with their lengths in nanoseconds. A month is a twelfth of a year, which has 365 days and a
quarter. -/
def units : List (List String × Nat) := [
  (["nanos", "nsec", "ns"], 1),
  (["usec", "us", "µs"], 1000),
  (["millis", "msec", "ms"], 1000000),
  (["seconds", "second", "secs", "sec", "s"], 1000000000),
  (["minutes", "minute", "min", "mins", "m"], 60 * 1000000000),
  (["hours", "hour", "hrs", "hr", "h"], 3600 * 1000000000),
  (["days", "day", "d"], 86400 * 1000000000),
  (["weeks", "week", "wks", "wk", "w"], 604800 * 1000000000),
  (["months", "month", "M"], 2630016 * 1000000000),
  (["years", "year", "yrs", "yr", "y"], 31557600 * 1000000000)]

def unit? (name : List Char) : Option Nat :=
  (units.find? fun u => u.1.contains (String.ofList name)).map (·.2)

def isUnitLetter (c : Char) : Bool := c.isAlpha || c == 'µ'

def fitting (n : Nat) : Option Nat := if Decimal.Width.unsigned64.holds n then some n else none

/-- A number with a unit in nanoseconds. The fraction of an hour or of a longer unit counts in whole seconds. -/
def span? (whole fraction : List Char) (unit : Nat) : Option Nat := do
  let n ← (Decimal.natural? whole).bind fitting
  let scale := if unit < 1000000000 then unit else unit / 1000000000
  let _ ← fitting (n * scale)
  let part ←
    if fraction.isEmpty then some 0
    else do
      let k ← (Decimal.natural? fraction).bind fitting
      let d ← fitting (Nat.pow 10 fraction.length)
      if unit < 3600 * 1000000000 then (fitting (k * unit)).map (· / d)
      else (fitting (k * scale)).map fun m => m / d * 1000000000
  some (n * unit + part)

/-- The spans of a text one after the other, added to those read. Blanks may stand before a number, and between
it and its unit, but not inside the unit. -/
def spans : Nat → Nat → List Char → Option Nat
  | 0, _, _ => none
  | n + 1, total, s =>
    match s.dropWhile Blank.isBlank with
    | [] => some total
    | c :: r =>
      if !c.isDigit then none
      else do
        let isInside (x : Char) : Bool := x.isDigit || Blank.isBlank x
        let whole := ((c :: r).takeWhile isInside).filter Char.isDigit
        let rest := (c :: r).dropWhile isInside
        let (fraction, rest) ←
          match rest with
          | '.' :: rest =>
            let fraction := (rest.takeWhile isInside).filter Char.isDigit
            if fraction.isEmpty then none else some (fraction, rest.dropWhile isInside)
          | rest => some ([], rest)
        let unit ← unit? (rest.takeWhile isUnitLetter)
        let k ← span? whole fraction unit
        let rest := rest.dropWhile isUnitLetter
        if rest.head?.any fun x => !isInside x then none
        else do
          let total := total + k
          let _ ← ofNanoseconds? total
          spans n total rest

/-- The length that a text writes. Zero needs no unit. -/
def parse? (s : List Char) : Option Duration :=
  if s = ['0'] then some zero
  else if s.all Blank.isBlank then none
  else (spans (s.length + 1) 0 s).bind ofNanoseconds?

/-- A count with a unit that has a plural, unless it is zero. -/
def counted (n : Nat) (unit : String) : List String :=
  if n = 0 then [] else [toString n ++ unit ++ if n = 1 then "" else "s"]

def plain (n : Nat) (unit : String) : List String := if n = 0 then [] else [toString n ++ unit]

/-- The length in words: the units from the greatest to the smallest, without those that do not occur. -/
def text (d : Duration) : String :=
  let rest := d.seconds % 31557600
  let day := rest % 2630016
  let parts :=
    counted (d.seconds / 31557600) "year" ++ counted (rest / 2630016) "month"
      ++ counted (day / 86400) "day" ++ plain (day % 86400 / 3600) "h"
      ++ plain (day % 3600 / 60) "m" ++ plain (day % 60) "s"
      ++ plain (d.nanoseconds / 1000000) "ms" ++ plain (d.nanoseconds / 1000 % 1000) "us"
      ++ plain (d.nanoseconds % 1000) "ns"
  if parts.isEmpty then "0s" else " ".intercalate parts

end Duration

end Stencil.Time
