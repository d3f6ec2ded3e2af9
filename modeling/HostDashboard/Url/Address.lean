/-
**Numeric addresses in links.**

* An IPv4 address has up to four parts with dots between them, each decimal, octal after `0` or
  hexadecimal after `0x`; the last part fills all octets that the others leave.
* An IPv6 address has eight groups of hexadecimal digits; one run of zero groups may be written `::`,
  and the last two groups may be written as an IPv4 address. It is written with the first longest run
  of at least two zero groups left out.
-/

import HostDashboard.Decimal.Natural
import HostDashboard.Text.Escape
import HostDashboard.Text.Pieces

namespace HostDashboard.Url.Address

/-! ### IPv4 -/

/-- The number of some digits in a base, unless a character is no digit of it. -/
def inBase? (base : Nat) (ds : List Char) : Option Nat :=
  ds.foldlM (fun n d =>
    match Text.Hexadecimal.value? d with
    | some v => if v < base then some (n * base + v) else none
    | none => none) 0

def part? (part : List Char) : Option Nat :=
  match part with
  | [] => none
  | '0' :: 'x' :: ds => inBase? 16 ds
  | '0' :: 'X' :: ds => inBase? 16 ds
  | '0' :: d :: ds => inBase? 8 (d :: ds)
  | ds => inBase? 10 ds

/-- The parts of a name, without an empty one at the end. -/
def parts (name : List Char) : List (List Char) :=
  let all := Text.pieces '.' name
  if all.getLast? = some [] then all.dropLast else all

/-- A name is read as an IPv4 address because its last part is a number. -/
def endsInNumber (name : List Char) : Bool :=
  match (parts name).getLast? with
  | some last => (!last.isEmpty && last.all Char.isDigit) || (part? last).isSome
  | none => false

/-- The address of a name, as a number below 2 ^ 32. -/
def ipv4? (name : List Char) : Option Nat := do
  let numbers ← (parts name).mapM part?
  let last ← numbers.getLast?
  let others := numbers.dropLast
  if others.length ≤ 3 ∧ others.all (· ≤ 255) ∧ last < Nat.pow 256 (4 - others.length) then
    return others.foldl (fun sum octet => sum * 256 + octet) 0
      * Nat.pow 256 (4 - others.length) + last
  else none

/-- An IPv4 address with four decimal parts. -/
def writeIpv4 (address : Nat) : List Char :=
  ['.'].intercalate ([16777216, 65536, 256, 1].map fun weight =>
    Decimal.digits (address / weight % 256))

/-! ### IPv6 -/

/-- One of four decimal parts: at most 255 and without zeros in front. -/
def plainPart? (part : List Char) : Option Nat :=
  match part with
  | '0' :: _ :: _ => none
  | _ => (Decimal.read? part).filter (· ≤ 255)

/-- Two groups from an IPv4 address at the end. -/
def embedded? (source : List Char) : Option (List Nat) :=
  match (Text.pieces '.' source).mapM plainPart? with
  | some [a, b, c, d] => some [a * 256 + b, c * 256 + d]
  | _ => none

/-- The groups that were read, where `::` stood among them, and how the address ends. -/
def expand? (groups : List Nat) (gap : Option Nat) : Option (List Nat) :=
  match gap with
  | some place =>
    some (groups.take place ++ List.replicate (8 - groups.length) 0 ++ groups.drop place)
  | none => if groups.length = 8 then some groups else none

/-- Reads groups while there is room for them. The group before a gap counts as zero. -/
def groups? : Nat → List Nat → Option Nat → List Char → Option (List Nat)
  | _, groups, gap, [] => expand? groups gap
  | 0, _, _, _ => none
  | room + 1, groups, gap, ':' :: rest =>
    if gap.isSome then none
    else groups? room (groups ++ [0]) (some (groups.length + 1)) rest
  | room + 1, groups, gap, source =>
    let ds := (source.take 4).takeWhile fun c => (Text.Hexadecimal.value? c).isSome
    match inBase? 16 ds, source.drop ds.length with
    | some value, [] => expand? (groups ++ [value]) gap
    | some value, ':' :: c :: rest => groups? room (groups ++ [value]) gap (c :: rest)
    | some _, '.' :: _ =>
      if ds.isEmpty ∨ room = 0 then none
      else (embedded? source).bind fun pair => expand? (groups ++ pair) gap
    | _, _ => none

/-- The eight groups of an address. -/
def ipv6? (source : List Char) : Option (List Nat) :=
  match source with
  | ':' :: ':' :: rest => groups? 7 [0] (some 1) rest
  | ':' :: _ => none
  | _ => groups? 8 [] none source

/-- The length of the run of zeros at the front. -/
def zeroRun (groups : List Nat) : Nat := (groups.takeWhile (· = 0)).length

/-- The first longest run of zeros: its place and its length. -/
def longestRun (groups : List Nat) : Nat × Nat :=
  (List.range groups.length).foldl (fun best place =>
    let length := zeroRun (groups.drop place)
    if best.2 < length then (place, length) else best) (0, 0)

/-- The groups with colons between them. -/
def writeGroups (groups : List Nat) : List Char :=
  [':'].intercalate (groups.map fun group => Nat.toDigits 16 group)

/-- An IPv6 address between brackets. -/
def writeIpv6 (groups : List Nat) : List Char :=
  let (place, length) := longestRun groups
  let body :=
    if 2 ≤ length then
      writeGroups (groups.take place) ++ ':' :: ':' :: writeGroups (groups.drop (place + length))
    else writeGroups groups
  '[' :: body ++ [']']

end HostDashboard.Url.Address
