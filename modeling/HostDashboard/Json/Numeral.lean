/-
**Numerals of JSON and their values.**

A numeral has an optional minus sign, digits without a needless zero in front, then optionally a
fraction and an exponent, each with at least one digit.

* `Numeral.parse?` accepts exactly this grammar;
* `Numeral.value?` is a whole number when there is neither fraction nor exponent and it lies in
  `-2^63 … 2^64 - 1`, and else a double made from as many leading digits as fit into 64 bits. A
  double that would be infinite is no value, and `-0` is the double with that sign.
-/

import HostDashboard.Json.Basic
import HostDashboard.Decimal.Natural

namespace HostDashboard.Json

/-- The parts of a numeral. -/
structure Numeral where
  /-- A minus sign stands in front. -/
  negative : Bool
  /-- The digits before the point. -/
  whole : List Char
  /-- The digits after the point. -/
  fraction : Option (List Char)
  /-- The exponent with its sign. -/
  exponent : Option Int
  deriving DecidableEq, Repr

namespace Numeral

/-- The digits at the front, if there is at least one, and what follows them. -/
def digits1? (source : List Char) : Option (List Char × List Char) :=
  match source.takeWhile Char.isDigit with
  | [] => none
  | ds => some (ds, source.dropWhile Char.isDigit)

/-- The digits before the point: a lone zero, or digits that begin with another. -/
def whole? : List Char → Option (List Char × List Char)
  | '0' :: rest => some (['0'], rest)
  | source => digits1? source

/-- The fraction, if a point is there. -/
def fraction? : List Char → Option (Option (List Char) × List Char)
  | '.' :: rest => (digits1? rest).map fun (ds, after) => (some ds, after)
  | source => some (none, source)

/-- The exponent after its mark. -/
def exponentDigits? (source : List Char) : Option Int :=
  match source with
  | '-' :: rest => (Decimal.read? rest).map fun n => -(n : Int)
  | '+' :: rest => (Decimal.read? rest).map fun n => (n : Int)
  | _ => (Decimal.read? source).map fun n => (n : Int)

/-- The exponent, if a mark is there; nothing may follow it. -/
def exponent? : List Char → Option (Option Int)
  | [] => some none
  | 'e' :: rest => (exponentDigits? rest).map some
  | 'E' :: rest => (exponentDigits? rest).map some
  | _ => none

/-- The parts of a numeral. -/
def parse? (source : List Char) : Option Numeral := do
  let (negative, unsigned) := match source with
    | '-' :: rest => (true, rest)
    | _ => (false, source)
  let (whole, afterWhole) ← whole? unsigned
  let (fraction, afterFraction) ← fraction? afterWhole
  let exponent ← exponent? afterFraction
  return ⟨negative, whole, fraction, exponent⟩

/-- Appends digits to a number as long as it stays below `2^64`, and counts those appended. -/
def extend (n : Nat) : List Char → Nat × Nat
  | [] => (n, 0)
  | d :: rest =>
    let next := n * 10 + (d.toNat - '0'.toNat)
    if next < Nat.pow 2 64 then ((extend next rest).1, (extend next rest).2 + 1) else (n, 0)

/-- The double of a numeral, from the digits that fit. -/
def real? (numeral : Numeral) : Option Decimal.Binary64 :=
  let (leading, used) := extend 0 numeral.whole
  let (digits, usedAfter) := extend leading (numeral.fraction.getD [])
  let power : Int := (numeral.whole.length - used : Nat) - usedAfter + numeral.exponent.getD 0
  Decimal.Binary64.scaled numeral.negative digits power

/-- The value of a numeral, unless it is too large. -/
def value? (numeral : Numeral) : Option Number :=
  let n := Decimal.value numeral.whole
  match numeral.fraction, numeral.exponent with
  | none, none =>
    if numeral.negative = false ∧ n < Nat.pow 2 64 then some (.int n)
    else if numeral.negative = true ∧ 0 < n ∧ n ≤ Nat.pow 2 63 then some (.int (-n))
    else numeral.real?.map .real
  | _, _ => numeral.real?.map .real

end Numeral

end HostDashboard.Json
