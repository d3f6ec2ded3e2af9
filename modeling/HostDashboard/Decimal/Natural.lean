/-
**Whole numbers in decimal digits.**

* `digits` writes a number without leading zeros;
* `read?` reads one or more ASCII digits, leading zeros allowed;
* `readUnsigned?` and `readSigned?` also take a sign and refuse what leaves their range.
-/

namespace HostDashboard.Decimal

/-- The digits of a number, the most significant first. -/
def digits (n : Nat) : List Char := Nat.toDigits 10 n

/-- The digits of a number as a string. -/
def text (n : Nat) : String := String.ofList (digits n)

/-- The digits of a whole number, after a minus sign if it is negative. -/
def signedDigits (i : Int) : List Char :=
  if i < 0 then '-' :: digits i.natAbs else digits i.natAbs

/-- The number that some digits write. -/
def value (ds : List Char) : Nat := ds.foldl (fun n d => n * 10 + (d.toNat - '0'.toNat)) 0

/-- Reads one or more digits. -/
def read? (ds : List Char) : Option Nat :=
  if ds.isEmpty || !ds.all Char.isDigit then none else some (value ds)

/-- The number of bits of the unsigned range `0 … 2^bits - 1`, read with an optional plus sign. -/
def readUnsigned? (bits : Nat) (ds : List Char) : Option Nat :=
  let body := match ds with
    | '+' :: rest => rest
    | other => other
  (read? body).filter (· < Nat.pow 2 bits)

/-- A number in the range `-2^63 … 2^63 - 1`, read with an optional sign. -/
def readSigned? (ds : List Char) : Option Int :=
  match ds with
  | '-' :: rest => ((read? rest).filter (· ≤ Nat.pow 2 63)).map fun n => -(n : Int)
  | '+' :: rest => ((read? rest).filter (· < Nat.pow 2 63)).map fun n => (n : Int)
  | _ => ((read? ds).filter (· < Nat.pow 2 63)).map fun n => (n : Int)

end HostDashboard.Decimal
