/-
**Escapes in texts.**

What escapes are made of, and the formats that are written with them:

* `Hexadecimal.value?` reads a digit in either case, `upper` and `lower` write one, and reading undoes
  writing (`value_upper`, `value_lower`);
* `Surrogate.ofUnits` makes a text of 16-bit code units. A number above 0xFFFF stands for itself, and so
  does one below that is no surrogate. A high surrogate and the low one right after it make one
  character; a surrogate without its partner makes the whole text unreadable;
* `Percent` writes an octet as a percent sign and two capital hexadecimal digits. `escape` writes a text
  and escapes the octets of the characters that must not stand for themselves; `unescape` undoes every
  escape among some octets and leaves a percent sign without two digits as it is;
* `Form` writes and reads a list of pairs in the form-urlencoded format: `name=value` with `&` between
  the pairs. A space becomes `+`, ASCII letters, digits and `*-._` stand for themselves, and every other
  octet is percent-encoded. Any text can be read: a piece without `=` is a name with an empty value, an
  empty piece is no pair, malformed escapes stay as they are, and malformed UTF-8 is replaced.
-/

import HostDashboard.Text.Pieces
import HostDashboard.Text.Utf8

/-! ### Hexadecimal digits -/

namespace HostDashboard.Text.Hexadecimal

/-- The value of a digit. -/
def value? (c : Char) : Option Nat :=
  if '0' ≤ c ∧ c ≤ '9' then some (c.toNat - '0'.toNat)
  else if 'a' ≤ c ∧ c ≤ 'f' then some (c.toNat - 'a'.toNat + 10)
  else if 'A' ≤ c ∧ c ≤ 'F' then some (c.toNat - 'A'.toNat + 10)
  else none

/-- The digit of a number below 16, with capital letters. -/
def upper (n : Nat) : Char := Char.ofNat (if n < 10 then '0'.toNat + n else 'A'.toNat + (n - 10))

/-- The digit of a number below 16, with small letters. -/
def lower (n : Nat) : Char := Char.ofNat (if n < 10 then '0'.toNat + n else 'a'.toNat + (n - 10))

/-- A capital digit reads back. -/
theorem value_upper (n : Fin 16) : value? (upper n) = some n.val := by revert n; decide

/-- A small digit reads back. -/
theorem value_lower (n : Fin 16) : value? (lower n) = some n.val := by revert n; decide

end HostDashboard.Text.Hexadecimal

/-! ### Characters from 16-bit code units -/

namespace HostDashboard.Text.Surrogate

/-- The first half of a pair. -/
def isHigh (unit : Nat) : Bool := 0xD800 ≤ unit && unit ≤ 0xDBFF

/-- The second half of a pair. -/
def isLow (unit : Nat) : Bool := 0xDC00 ≤ unit && unit ≤ 0xDFFF

def paired (high low : Nat) : Char := Char.ofNat (0x10000 + (high - 0xD800) * 0x400 + (low - 0xDC00))

/-- The text of some code units, unless a surrogate stands alone. -/
def ofUnits : List Nat → Option (List Char)
  | [] => some []
  | [unit] => if isHigh unit || isLow unit then none else some [Char.ofNat unit]
  | unit :: next :: rest =>
    if isHigh unit then
      if isLow next then (ofUnits rest).map (paired unit next :: ·) else none
    else if isLow unit then none
    else (ofUnits (next :: rest)).map (Char.ofNat unit :: ·)

end HostDashboard.Text.Surrogate

/-! ### Percent-encoding -/

namespace HostDashboard.Text.Percent

def escapeOctet (octet : UInt8) : List Char :=
  ['%', Hexadecimal.upper (octet.toNat / 16), Hexadecimal.upper (octet.toNat % 16)]

/-- The escapes of the octets of a character. -/
def escapeChar (c : Char) : List Char := (Utf8.encodeChar c).flatMap escapeOctet

/-- A text where only the characters that `plain` admits stand for themselves. -/
def escape (plain : Char → Bool) (source : List Char) : List Char :=
  source.flatMap fun c => if plain c then [c] else escapeChar c

/-- The value of an octet that is a hexadecimal digit. -/
def digitValue? (octet : UInt8) : Option Nat := Hexadecimal.value? (Char.ofNat octet.toNat)

/-- The octet that two digits write. -/
def pairValue? (first second : UInt8) : Option UInt8 := do
  let high ← digitValue? first
  let low ← digitValue? second
  return .ofNat (high * 16 + low)

/-- Octets with every escape undone that `undone` admits. -/
def unescapeOnly (undone : UInt8 → Bool) : List UInt8 → List UInt8
  | octet :: first :: second :: rest =>
    if octet = 0x25 then
      match pairValue? first second with
      | some value =>
        if undone value then value :: unescapeOnly undone rest
        else octet :: unescapeOnly undone (first :: second :: rest)
      | none => octet :: unescapeOnly undone (first :: second :: rest)
    else octet :: unescapeOnly undone (first :: second :: rest)
  | few => few

/-- Octets with every escape undone. -/
def unescape (octets : List UInt8) : List UInt8 := unescapeOnly (fun _ => true) octets

/-- The text of a text with escapes, malformed UTF-8 replaced. -/
def decode (source : List Char) : List Char := Utf8.decode (unescape (Utf8.encode source))

end HostDashboard.Text.Percent

/-! ### Names and values -/

namespace HostDashboard.Text.Form

/-- A character that stands for itself. -/
def isPlain (c : Char) : Bool := c.isAlphanum || c = '*' || c = '-' || c = '.' || c = '_'

/-- The written form of a character. -/
def encodeChar (c : Char) : List Char :=
  if isPlain c then [c] else if c = ' ' then ['+'] else Percent.escapeChar c

/-- The written form of a name or a value. -/
def encode (source : List Char) : List Char := source.flatMap encodeChar

def write (pairs : List (List Char × List Char)) : List Char :=
  ['&'].intercalate (pairs.map fun pair => encode pair.1 ++ '=' :: encode pair.2)

/-- The name or value of a written form. -/
def decode (source : List Char) : List Char :=
  Percent.decode (source.map fun c => if c = '+' then ' ' else c)

def pairOf (piece : List Char) : List Char × List Char :=
  (decode (cut '=' piece).1, decode ((cut '=' piece).2.getD []))

/-- The pairs of a text. -/
def pairs (source : List Char) : List (List Char × List Char) :=
  ((pieces '&' source).filter fun piece => !piece.isEmpty).map pairOf

end HostDashboard.Text.Form
