/-
**UTF-8, with replacement of what is malformed.**

* `encode` writes each character as one to four octets;
* `decode` reads any octets: each longest well-begun but unfinished or impossible sequence becomes
  one U+FFFD, and reading goes on at the octet that broke it.

The reader goes one octet at a time: `Progress` says how many continuation octets are owed, between
which bounds the next one must lie, and the value so far.
-/

namespace HostDashboard.Text.Utf8

/-- The octets of a character. -/
def encodeChar (c : Char) : List UInt8 :=
  let n := c.toNat
  if n < 0x80 then [.ofNat n]
  else if n < 0x800 then [.ofNat (0xC0 + n / 64), .ofNat (0x80 + n % 64)]
  else if n < 0x10000 then
    [.ofNat (0xE0 + n / 4096), .ofNat (0x80 + n / 64 % 64), .ofNat (0x80 + n % 64)]
  else
    [.ofNat (0xF0 + n / 262144), .ofNat (0x80 + n / 4096 % 64), .ofNat (0x80 + n / 64 % 64),
     .ofNat (0x80 + n % 64)]

/-- The octets of a text. -/
def encode (text : List Char) : List UInt8 := text.flatMap encodeChar

/-- The character that stands for malformed octets. -/
def replacement : Char := '\uFFFD'

/-- Where the reader stands between two octets. -/
inductive Progress where
  /-- Between characters. -/
  | start
  /-- Inside a character: `owed` more octets, the next one in `low … high`. -/
  | within (owed low high value : Nat)
  deriving DecidableEq, Repr

/-- Reads the first octet of a character. -/
def lead (octet : Nat) : List Char × Progress :=
  if octet < 0x80 then ([Char.ofNat octet], .start)
  else if 0xC2 ≤ octet ∧ octet ≤ 0xDF then ([], .within 1 0x80 0xBF (octet - 0xC0))
  else if octet = 0xE0 then ([], .within 2 0xA0 0xBF 0)
  else if octet = 0xED then ([], .within 2 0x80 0x9F 0xD)
  else if 0xE1 ≤ octet ∧ octet ≤ 0xEF then ([], .within 2 0x80 0xBF (octet - 0xE0))
  else if octet = 0xF0 then ([], .within 3 0x90 0xBF 0)
  else if 0xF1 ≤ octet ∧ octet ≤ 0xF3 then ([], .within 3 0x80 0xBF (octet - 0xF0))
  else if octet = 0xF4 then ([], .within 3 0x80 0x8F 4)
  else ([replacement], .start)

/-- Reads one octet: the characters that it completes, and the progress after it. -/
def step : Progress → Nat → List Char × Progress
  | .start, octet => lead octet
  | .within owed low high value, octet =>
    if low ≤ octet ∧ octet ≤ high then
      if owed ≤ 1 then ([Char.ofNat (value * 64 + (octet - 0x80))], .start)
      else ([], .within (owed - 1) 0x80 0xBF (value * 64 + (octet - 0x80)))
    else (replacement :: (lead octet).1, (lead octet).2)

/-- The characters of the octets from some progress on. -/
def decodeFrom : Progress → List UInt8 → List Char
  | .start, [] => []
  | .within .., [] => [replacement]
  | progress, octet :: rest =>
    (step progress octet.toNat).1 ++ decodeFrom (step progress octet.toNat).2 rest

def decode (octets : List UInt8) : List Char := decodeFrom .start octets

/-- The octets are well-formed: reading them replaces nothing. -/
def isWellFormed (octets : List UInt8) : Bool := encode (decode octets) == octets

end HostDashboard.Text.Utf8
