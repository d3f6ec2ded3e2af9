/-
**Instants in UTC, as scans report them.**

An instant counts seconds from 1970-01-01T00:00:00Z and nanoseconds within the second; the
nanoseconds reach into a second one while a leap second lasts. Instants are ordered by seconds, then
by nanoseconds.

Dates are those of the proleptic Gregorian calendar. Day 0 is 1970-01-01; `Date.dayNumber` and `dateOf` go
back and forth through years that begin in March, so that a leap day is the last of its year.

* `Instant.read?` takes a relaxed form of the profile of ISO 8601 used on the Internet: blanks between
  the parts, few digits, a blank or `T` before the time, and a required offset;
* `Instant.write` gives the instant in UTC with no, three, six or nine digits after the point,
  whichever is the least that is exact.
-/

import HostDashboard.Decimal.Natural
import HostDashboard.Text.Pieces

namespace HostDashboard.Time

/-! ### The calendar -/

/-- A year, a month from 1 to 12 and a day of the month. -/
structure Date where
  year : Int
  month : Nat
  day : Nat
  deriving DecidableEq, Repr

/-- A year has a 29 February. -/
def isLeapYear (year : Int) : Bool := year % 4 == 0 && (year % 100 != 0 || year % 400 == 0)

def daysInMonth (year : Int) (month : Nat) : Nat :=
  if month = 2 then (if isLeapYear year then 29 else 28)
  else if month = 4 ∨ month = 6 ∨ month = 9 ∨ month = 11 then 30
  else 31

/-- The least and the greatest year that a date may have. -/
def yearLimits : Int × Int := (-262143, 262142)

/-- A date of the calendar, if its year, month and day exist. -/
def Date.of? (year : Int) (month day : Nat) : Option Date :=
  if yearLimits.1 ≤ year ∧ year ≤ yearLimits.2 ∧ 1 ≤ month ∧ month ≤ 12 ∧ 1 ≤ day
      ∧ day ≤ daysInMonth year month then
    some ⟨year, month, day⟩
  else none

/-- The number of days from 1970-01-01 to a date. -/
def Date.dayNumber (date : Date) : Int :=
  let year := if date.month ≤ 2 then date.year - 1 else date.year
  let era := year / 400
  let yearOfEra := year % 400
  let monthFromMarch := (date.month + 9) % 12
  let dayOfYear := (153 * monthFromMarch + 2) / 5 + (date.day - 1)
  era * 146097 + (yearOfEra * 365 + yearOfEra / 4 - yearOfEra / 100 + dayOfYear) - 719468

def dateOf (dayNumber : Int) : Date :=
  let fromMarch := dayNumber + 719468
  let era := fromMarch / 146097
  let dayOfEra := (fromMarch % 146097).toNat
  let yearOfEra := (dayOfEra - dayOfEra / 1460 + dayOfEra / 36524 - dayOfEra / 146096) / 365
  let dayOfYear := dayOfEra - (365 * yearOfEra + yearOfEra / 4 - yearOfEra / 100)
  let monthFromMarch := (5 * dayOfYear + 2) / 153
  let month := if monthFromMarch < 10 then monthFromMarch + 3 else monthFromMarch - 9
  let year : Int := era * 400 + yearOfEra
  ⟨if month ≤ 2 then year + 1 else year, month, dayOfYear - (153 * monthFromMarch + 2) / 5 + 1⟩

/-! ### Instants -/

/-- A point in time. -/
structure Instant where
  /-- Whole seconds since the start of 1970. -/
  seconds : Int
  /-- Nanoseconds within the second; one thousand million more during a leap second. -/
  nanoseconds : Nat
  deriving DecidableEq, Repr, Inhabited

namespace Instant

/-- The nanoseconds of a second. -/
def perSecond : Nat := 1000000000

def notAfter (first second : Instant) : Bool :=
  first.seconds < second.seconds
    || (first.seconds == second.seconds && first.nanoseconds ≤ second.nanoseconds)

/-! ### Reading -/

/-- A text without an expected character at its front. -/
def expect? (c : Char) : List Char → Option (List Char)
  | first :: rest => if first = c then some rest else none
  | [] => none

/-- One or more digits, at most `width` of them. -/
def number? (width : Nat) (source : List Char) : Option (Nat × List Char) :=
  let ds := (source.take width).takeWhile Char.isDigit
  if ds.isEmpty then none else some (Decimal.value ds, source.drop ds.length)

/-- A year: up to four digits, or any number of them after a sign. -/
def year? (source : List Char) : Option (Int × List Char) :=
  match Text.trimStart source with
  | '-' :: rest => (number? rest.length rest).map fun (n, after) => (-(n : Int), after)
  | '+' :: rest => (number? rest.length rest).map fun (n, after) => ((n : Int), after)
  | plain => (number? 4 plain).map fun (n, after) => ((n : Int), after)

/-- Two digits or one, after blanks. -/
def pair? (source : List Char) : Option (Nat × List Char) := number? 2 (Text.trimStart source)

/-- Nanoseconds after a point: digits beyond the ninth are dropped. -/
def fraction? : List Char → Option (Nat × List Char)
  | '.' :: rest =>
    let ds := rest.takeWhile Char.isDigit
    if ds.isEmpty then none
    else
      let kept := ds.take 9
      some (Decimal.value kept * Nat.pow 10 (9 - kept.length), rest.dropWhile Char.isDigit)
  | source => some (0, source)

/-- The hours, minutes and nothing else of an offset after its sign, in seconds. -/
def offsetSize? (source : List Char) : Option (Nat × List Char) :=
  match source with
  | a :: b :: rest =>
    if a.isDigit && b.isDigit then
      match rest.dropWhile fun c => c = ':' || Text.isBlank c with
      | m :: n :: after =>
        if m.isDigit && n.isDigit && m ≤ '5' then
          some (Decimal.value [a, b] * 3600 + Decimal.value [m, n] * 60, after)
        else none
      | _ => none
    else none
  | _ => none

/-- An offset from UTC in seconds: `Z`, `UTC`, or a sign with hours and minutes below 24:00. -/
def offset? (source : List Char) : Option (Int × List Char) :=
  match source with
  | 'Z' :: rest => some (0, rest)
  | 'z' :: rest => some (0, rest)
  | u :: t :: c :: rest =>
    if u.toUpper = 'U' ∧ t.toUpper = 'T' ∧ c.toUpper = 'C' then some (0, rest)
    else
      let sized := offsetSize? (t :: c :: rest)
      let inRange := sized.filter fun size => size.1 < 86400
      if u = '+' then inRange.map fun (n, after) => ((n : Int), after)
      else if u = '-' ∨ u = '\u2212' then inRange.map fun (n, after) => (-(n : Int), after)
      else none
  | _ => none

/-- The instant of a local date and time with an offset. A sixtieth second is a leap second. -/
def ofLocal? (date : Date) (hour minute second nanoseconds : Nat) (offset : Int) :
    Option Instant :=
  if hour < 24 ∧ minute < 60 ∧ second ≤ 60 then
    let leap := second = 60
    let seconds : Int := date.dayNumber * 86400 + (hour * 3600 + minute * 60 : Nat)
      + (if leap then 59 else second : Nat) - offset
    let utcYear := (dateOf (seconds / 86400)).year
    if yearLimits.1 ≤ utcYear ∧ utcYear ≤ yearLimits.2 then
      some ⟨seconds, if leap then nanoseconds + perSecond else nanoseconds⟩
    else none
  else none

def read? (source : List Char) : Option Instant := do
  let (year, rest) ← year? source
  let (month, rest) ← pair? (← expect? '-' (Text.trimStart rest))
  let (day, rest) ← pair? (← expect? '-' (Text.trimStart rest))
  let date ← Date.of? year month day
  let rest ← match rest with
    | c :: rest => if c = 'T' ∨ c = 't' ∨ Text.isBlank c then some rest else none
    | [] => none
  let (hour, rest) ← pair? rest
  let (minute, rest) ← pair? (← expect? ':' (Text.trimStart rest))
  let (second, rest) ← pair? (← expect? ':' (Text.trimStart rest))
  let (nanoseconds, rest) ← fraction? rest
  let (offset, rest) ← offset? (Text.trimStart rest)
  if rest.all Text.isBlank then ofLocal? date hour minute second nanoseconds offset else none

def parse? (source : String) : Option Instant := read? source.toList

/-! ### Writing -/

/-- A number with zeros in front up to some width. -/
def padded (width n : Nat) : List Char :=
  List.replicate (width - (Decimal.digits n).length) '0' ++ Decimal.digits n

/-- A year: four digits, or a sign and at least four digits outside `0 … 9999`. -/
def writeYear (year : Int) : List Char :=
  if 0 ≤ year ∧ year ≤ 9999 then padded 4 year.toNat
  else (if year < 0 then '-' else '+') :: padded 4 year.natAbs

/-- The point and the digits after it, if there are any. -/
def writeFraction (nanoseconds : Nat) : List Char :=
  if nanoseconds = 0 then []
  else if nanoseconds % 1000000 = 0 then '.' :: padded 3 (nanoseconds / 1000000)
  else if nanoseconds % 1000 = 0 then '.' :: padded 6 (nanoseconds / 1000)
  else '.' :: padded 9 nanoseconds

/-- The instant in UTC. -/
def write (instant : Instant) : List Char :=
  let date := dateOf (instant.seconds / 86400)
  let ofDay := (instant.seconds % 86400).toNat
  let leap := perSecond ≤ instant.nanoseconds
  let second := if leap then ofDay % 60 + 1 else ofDay % 60
  let nanoseconds := if leap then instant.nanoseconds - perSecond else instant.nanoseconds
  writeYear date.year ++ '-' :: padded 2 date.month ++ '-' :: padded 2 date.day
    ++ 'T' :: padded 2 (ofDay / 3600) ++ ':' :: padded 2 (ofDay / 60 % 60)
    ++ ':' :: padded 2 second ++ writeFraction nanoseconds ++ ['Z']

/-- The instant in UTC as a string. -/
def print (instant : Instant) : String := String.ofList instant.write

end Instant

end HostDashboard.Time
