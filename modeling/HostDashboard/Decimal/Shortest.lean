/-
**The shortest decimal text of a floating-point number.**

The text has the fewest significant digits that read back as the number, and of those the digits
nearest to it. For each count of digits only the two neighbours of the number on that decimal grid
are tried: when a point of the grid lies among the reals that round to the number, so does a
neighbour. The layout is fixed by `Layout.plain`: positional from 10⁻⁵ up to below 10¹⁶, always with a
fraction or an exponent, the exponent with its sign.
-/

import HostDashboard.Decimal.Natural
import HostDashboard.Decimal.Binary64

namespace HostDashboard.Decimal.Binary64

/-- Decimal digits and the power of ten of the last of them. -/
structure Digits where
  /-- The digits as a whole number. -/
  coefficient : Nat
  /-- The power of ten that multiplies it. -/
  exponent : Int
  deriving DecidableEq, Repr

/-- A decimal as a quotient of whole numbers. -/
def Digits.ratio (d : Digits) : Nat × Nat :=
  if 0 ≤ d.exponent then (d.coefficient * Nat.pow 10 d.exponent.toNat, 1)
  else (d.coefficient, Nat.pow 10 (-d.exponent).toNat)

/-- The power of ten of the leading digit of a positive quotient. -/
def leadingPower (num den : Nat) : Int :=
  let estimate : Int := (digits num).length - (digits den).length
  let reached : Bool :=
    if 0 ≤ estimate then den * Nat.pow 10 estimate.toNat ≤ num
    else den ≤ num * Nat.pow 10 (-estimate).toNat
  if reached then estimate else estimate - 1

/-- The decimal reads back as the number. -/
def readsBack (pattern : Nat) (d : Digits) : Bool :=
  (ofRatio false d.ratio.1 d.ratio.2).pattern == pattern

/-- The decimal of `count` digits that reads back and is nearest, if there is one. -/
def nearest? (pattern num den count : Nat) : Option Digits :=
  let unit : Int := leadingPower num den - count + 1
  let (top, bottom) :=
    if 0 ≤ unit then (num, den * Nat.pow 10 unit.toNat)
    else (num * Nat.pow 10 (-unit).toNat, den)
  let below : Digits := ⟨top / bottom, unit⟩
  let above : Digits := ⟨top / bottom + 1, unit⟩
  let remainder := 2 * (top % bottom)
  let preferBelow : Bool :=
    remainder < bottom || (remainder == bottom && below.coefficient % 2 == 0)
  match readsBack pattern below, readsBack pattern above with
  | true, true => some (if preferBelow then below else above)
  | true, false => some below
  | false, true => some above
  | false, false => none

/-- The first count of digits that works, tried upwards; seventeen always do. -/
def shortestFrom (pattern num den : Nat) : Nat → Nat → Digits
  | _, 0 => ⟨0, 0⟩
  | count, tries + 1 =>
    (nearest? pattern num den count).getD (shortestFrom pattern num den (count + 1) tries)

/-- A decimal without trailing zeros in its coefficient. -/
def Digits.stripped : Nat → Digits → Digits
  | 0, d => d
  | tries + 1, d =>
    if d.coefficient ≠ 0 ∧ d.coefficient % 10 = 0 then
      stripped tries ⟨d.coefficient / 10, d.exponent + 1⟩
    else d

/-- The shortest decimal of a positive finite number. -/
def shortest (x : Binary64) : Digits :=
  (shortestFrom x.pattern x.ratio.1 x.ratio.2 1 17).stripped 20

/-- How a decimal is laid out. -/
structure Layout where
  /-- The least power of ten of the leading digit that is written positionally. -/
  leastPositional : Int
  /-- The greatest one. -/
  greatestPositional : Int
  /-- What stands before the exponent when it is not negative. -/
  exponentMark : List Char
  /-- What stands before the exponent when it is negative. -/
  negativeExponentMark : List Char

/-- Numbers from `0.00001` to below `10000000000000000.0` are positional; others have an exponent
with its sign. -/
def Layout.plain : Layout := ⟨-5, 15, ['e', '+'], ['e', '-']⟩

/-- The digits with a point where the power of ten says, and a zero where a side is empty. -/
def Layout.positional (ds : List Char) (leading : Int) : List Char :=
  if leading < 0 then
    ['0', '.'] ++ List.replicate (-leading - 1).toNat '0' ++ ds
  else
    let whole := leading.toNat + 1
    if ds.length ≤ whole then ds ++ List.replicate (whole - ds.length) '0' ++ ['.', '0']
    else ds.take whole ++ '.' :: ds.drop whole

/-- The digits as a number from one to below ten, times a power of ten. -/
def Layout.scientific (layout : Layout) (ds : List Char) (leading : Int) : List Char :=
  let mantissa := match ds with
    | first :: next :: rest => first :: '.' :: next :: rest
    | few => few
  mantissa ++ (if leading < 0 then layout.negativeExponentMark else layout.exponentMark)
    ++ digits leading.natAbs

/-- The text of a finite number. -/
def Layout.write (layout : Layout) (x : Binary64) : List Char :=
  let magnitude :=
    if x.pattern = 0 then ['0', '.', '0']
    else
      let d := x.shortest
      let ds := digits d.coefficient
      let leading := d.exponent + ds.length - 1
      if layout.leastPositional ≤ leading ∧ leading ≤ layout.greatestPositional then
        Layout.positional ds leading
      else layout.scientific ds leading
  if x.isNegative then '-' :: magnitude else magnitude

end HostDashboard.Decimal.Binary64
