/-
**Names of sessions.**

A session is named by a number of 128 bits. It is written as 32 hexadecimal digits in five groups with
hyphens between them; it is read in that form, without the hyphens, between braces, or as a name in
the namespace `urn:uuid:`, with letters of either case.
-/

import HostDashboard.Text.Escape

namespace HostDashboard

/-- The name of a session. -/
structure SessionId where
  /-- Its 128 bits. -/
  number : Nat
  deriving DecidableEq, Repr

namespace SessionId

/-- The name made of 122 bits of chance, with the marks of such a name between them: a four in front
of the third group and a one, then a zero, in front of the fourth. -/
def ofChance (first second third : Nat) : SessionId :=
  ⟨((first % Nat.pow 2 48 * 16 + 4) * Nat.pow 2 12 + second % Nat.pow 2 12) * Nat.pow 2 64
    + Nat.pow 2 63 + third % Nat.pow 2 62⟩

/-- The number of some hexadecimal digits. -/
def digits? (source : List Char) : Option Nat :=
  source.foldlM (fun n c => (Text.Hexadecimal.value? c).map (n * 16 + ·)) 0

/-- Where the hyphens stand between the groups. -/
def hyphenPlaces : List Nat := [8, 13, 18, 23]

/-- The number of five groups of digits with hyphens between them. -/
def grouped? (source : List Char) : Option Nat :=
  if source.length = 36 ∧ hyphenPlaces.all fun place => source[place]? = some '-' then
    digits? (source.take 8 ++ (source.drop 9).take 4 ++ (source.drop 14).take 4
      ++ (source.drop 19).take 4 ++ source.drop 24)
  else none

/-- What stands in front of a name in the namespace. -/
def namespaceMark : List Char := "urn:uuid:".toList

/-- Reads a name. -/
def read? (source : List Char) : Option SessionId :=
  let number :=
    if source.length = 32 then digits? source
    else if source.length = 38 ∧ source.head? = some '\x7b' ∧ source.getLast? = some '\x7d' then
      grouped? source.tail.dropLast
    else if namespaceMark.isPrefixOf source then grouped? (source.drop namespaceMark.length)
    else grouped? source
  number.map SessionId.mk

/-- The last digits of a number, as many as asked for. -/
def lastDigits : Nat → Nat → List Char
  | 0, _ => []
  | count + 1, n => lastDigits count (n / 16) ++ [Text.Hexadecimal.lower (n % 16)]

/-- The name in groups. -/
def write (id : SessionId) : List Char :=
  let ds := lastDigits 32 id.number
  ds.take 8 ++ '-' :: (ds.drop 8).take 4 ++ '-' :: (ds.drop 12).take 4
    ++ '-' :: (ds.drop 16).take 4 ++ '-' :: ds.drop 20

/-- The name in groups as a string. -/
def print (id : SessionId) : String := String.ofList id.write

end SessionId

end HostDashboard
