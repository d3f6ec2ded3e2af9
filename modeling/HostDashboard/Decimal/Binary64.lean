/-
**Binary floating-point numbers of 64 bits.**

A `Binary64` is its bit pattern: a sign, eleven bits of exponent, 52 of fraction. Its magnitude is
`significand · 2 ^ power` exactly. All arithmetic is on natural numbers:

* `ofRatio` is the nearest number to a quotient, a tie going to the even significand;
* `scaled` reads a decimal the way the program's JSON reader does: it rounds the leading digits,
  then multiplies or divides by a power of ten and rounds again.
-/

namespace HostDashboard.Decimal

/-- A floating-point number of 64 bits. -/
structure Binary64 where
  /-- Sign, exponent and fraction, from the most significant bit down. -/
  bits : UInt64
  deriving DecidableEq, Repr, Inhabited

namespace Binary64

/-- The patterns from here on have no finite magnitude. -/
def infinityPattern : Nat := 0x7FF * Nat.pow 2 52

/-- The bits without the sign. -/
def pattern (x : Binary64) : Nat := x.bits.toNat % Nat.pow 2 63

/-- The sign bit is set. -/
def isNegative (x : Binary64) : Bool := Nat.pow 2 63 ≤ x.bits.toNat

/-- A number is neither infinite nor undefined. -/
def isFinite (x : Binary64) : Bool := x.pattern < infinityPattern

/-- The whole number that the power of two multiplies. -/
def significand (x : Binary64) : Nat :=
  if x.pattern < Nat.pow 2 52 then x.pattern else Nat.pow 2 52 + x.pattern % Nat.pow 2 52

/-- The power of two, plus 1074. -/
def shift (x : Binary64) : Nat := x.pattern / Nat.pow 2 52 - 1

/-- The magnitude as a quotient of whole numbers. -/
def ratio (x : Binary64) : Nat × Nat :=
  if 1074 ≤ x.shift then (x.significand * Nat.pow 2 (x.shift - 1074), 1)
  else (x.significand, Nat.pow 2 (1074 - x.shift))

/-- A pattern with a sign. -/
def ofPattern (negative : Bool) (pattern : Nat) : Binary64 :=
  ⟨.ofNat (if negative then Nat.pow 2 63 + pattern else pattern)⟩

/-- The quotient rounded to a whole number, a half going to the even neighbour. -/
def roundedQuotient (num den : Nat) : Nat :=
  let floor := num / den
  let twice := 2 * (num % den)
  if twice < den then floor
  else if den < twice then floor + 1
  else floor + floor % 2

/-- The shift under which a quotient has a significand of 53 bits, or 0 for a small one. -/
def fittingShift (num den : Nat) : Nat :=
  let estimate : Int := (Nat.log2 num : Int) - Nat.log2 den
  let fits : Bool :=
    if 0 ≤ estimate then den * Nat.pow 2 estimate.toNat ≤ num else den ≤ num * Nat.pow 2 (-estimate).toNat
  let exponent := if fits then estimate else estimate - 1
  (exponent - 52 + 1074).toNat

/-- The nearest number to a quotient; from half a step above the greatest on it is infinite. -/
def ofRatio (negative : Bool) (num den : Nat) : Binary64 :=
  if num = 0 ∨ den = 0 then ofPattern negative 0
  else
    let shift := fittingShift num den
    let rounded :=
      if 1074 ≤ shift then roundedQuotient num (den * Nat.pow 2 (shift - 1074))
      else roundedQuotient (num * Nat.pow 2 (1074 - shift)) den
    ofPattern negative (min (shift * Nat.pow 2 52 + rounded) infinityPattern)

/-- The nearest number to a whole number. -/
def ofInt (i : Int) : Binary64 := ofRatio (i < 0) i.natAbs 1

/-- The magnitude times `10 ^ exponent`, where the power of ten is itself rounded first. -/
def timesPower (x : Binary64) (exponent : Nat) : Binary64 :=
  let (num, den) := x.ratio
  let (powerNum, powerDen) := (ofRatio false (Nat.pow 10 exponent) 1).ratio
  ofRatio x.isNegative (num * powerNum) (den * powerDen)

/-- The magnitude divided by `10 ^ exponent`, where the power of ten is itself rounded first. -/
def overPower (x : Binary64) (exponent : Nat) : Binary64 :=
  let (num, den) := x.ratio
  let (powerNum, powerDen) := (ofRatio false (Nat.pow 10 exponent) 1).ratio
  ofRatio x.isNegative (num * powerDen) (den * powerNum)

/-- The greatest power of ten that a finite number approximates. -/
def greatestPower : Nat := 308

/-- A decimal `digits · 10 ^ exponent` with at most 64 bits of digits, if it is not too large.
A power of ten beyond the greatest one is divided out in two steps. -/
def scaled (negative : Bool) (digits : Nat) (exponent : Int) : Option Binary64 :=
  let start := ofRatio negative digits 1
  let result :=
    if digits = 0 then some start
    else if 0 ≤ exponent then
      if exponent.toNat ≤ greatestPower then some (start.timesPower exponent.toNat) else none
    else if (-exponent).toNat ≤ greatestPower then some (start.overPower (-exponent).toNat)
    else if (-exponent).toNat ≤ 2 * greatestPower then
      some ((start.overPower greatestPower).overPower ((-exponent).toNat - greatestPower))
    else some (ofPattern negative 0)
  result.filter isFinite

end Binary64

end HostDashboard.Decimal
