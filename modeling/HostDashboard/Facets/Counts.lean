/-
**Counts per facet value.**

The search API counts the hosts behind every value of a category. Countries and services are counted
under their own names; autonomous systems under composite keys, the number, a dash and the name of
the organization. The sidebar shows an autonomous system as `AS` and the number.

* `Asn.parse` takes that form, with or without the two letters, with blanks around it and zeros in front,
  and refuses what is no number below 2 ^ 32;
* `options` lists the values of a category that can be shown, in order and without repetition;
* `count` looks up the count of a shown value, zero if there is none. For an autonomous system it is
  the count of the first key that begins with the number and a dash.
-/

import HostDashboard.Facets.Selections
import HostDashboard.Failure
import HostDashboard.Text.Pieces

/-! ### Numbers of autonomous systems -/

namespace HostDashboard.Asn

/-- Why a text shows no number. -/
inductive Fault where
  /-- Something other than digits stands where the number should. -/
  | notDigits
  /-- The number is not below 2 ^ 32. -/
  | tooLarge
  deriving DecidableEq, Repr

/-- A text without the letters in front of the number, if they are there. -/
def withoutLetters : List Char → List Char
  | 'A' :: 'S' :: rest => rest
  | digits => digits

/-- The number that a text shows. -/
def read (shown : List Char) : Except Fault Nat :=
  match Decimal.read? (withoutLetters (Text.trim shown)) with
  | none => .error .notDigits
  | some number => if number < Nat.pow 2 32 then .ok number else .error .tooLarge

/-- The failure to use a text as a selection. -/
def Fault.failure (shown : String) : Fault → Failure
  | notDigits => .malformed s!"invalid ASN selection '{shown}'"
  | tooLarge =>
    .malformed s!"invalid ASN selection '{shown}': number too large to fit in target type"

def parse (shown : String) : Except Failure Nat :=
  match read shown.toList with
  | .ok number => .ok number
  | .error fault => .error (fault.failure shown)

def «show» (number : Nat) : String := String.ofList ('A' :: 'S' :: Decimal.digits number)

end HostDashboard.Asn

/-! ### Counts -/

namespace HostDashboard

/-- Counts per facet value. -/
structure Counts where
  countries : Dictionary Nat := .empty
  asns : Dictionary Nat := .empty
  services : Dictionary Nat := .empty
  deriving DecidableEq, Inhabited

namespace Counts

/-- The number in front of the first dash of a composite key. -/
def keyNumber? (key : String) : Option Nat :=
  Decimal.readUnsigned? 32 (Text.cut '-' key.toList).1

/-- A number at its place among strictly increasing ones, once. -/
def placeNumber (number : Nat) : List Nat → List Nat
  | [] => [number]
  | next :: rest =>
    if number < next then number :: next :: rest
    else if number = next then next :: rest
    else next :: placeNumber number rest

/-- The distinct numbers of some, in increasing order. -/
def increasing (numbers : List Nat) : List Nat := numbers.foldr placeNumber []

/-- The numbers of the autonomous systems that are counted, in increasing order. -/
def asnNumbers (counts : Counts) : List Nat := increasing (counts.asns.keys.filterMap keyNumber?)

/-- The values of a category that can be shown. -/
def options (counts : Counts) : Category → List String
  | .countries => counts.countries.keys
  | .asns => counts.asnNumbers.map Asn.show
  | .services => counts.services.keys

/-- A composite key begins with a number and a dash. -/
def isKeyOf (number : Nat) (key : String) : Bool :=
  (Decimal.digits number ++ ['-']).isPrefixOf key.toList

/-- The count of an autonomous system by the text that shows it. -/
def asnCount (counts : Counts) (shown : String) : Nat :=
  match Asn.parse shown with
  | .error _ => 0
  | .ok number =>
    ((counts.asns.entries.find? fun entry => isKeyOf number entry.1).map Prod.snd).getD 0

/-- The count of a shown value. -/
def count (counts : Counts) : Category → String → Nat
  | .countries, value => (counts.countries.get? value).getD 0
  | .asns, value => counts.asnCount value
  | .services, value => (counts.services.get? value).getD 0

/-- Takes the counts of one category out of a document; null means none. -/
def dictionary? : Document → Option (Dictionary Nat) :=
  Document.orDefault? .empty (Document.asDictionary? (Document.asNat? 64))

def ofDocument? (document : Document) : Option Counts := do
  let fields ← document.fields? ["countries", "asns", "services"]
  return {
    countries := ← Document.optional? fields "countries" .empty dictionary?
    asns := ← Document.optional? fields "asns" .empty dictionary?
    services := ← Document.optional? fields "services" .empty dictionary? }

/-- The counts of one category as a record. -/
def dictionaryToJson (counts : Dictionary Nat) : Json :=
  .record (counts.entries.map fun entry => (entry.1, .ofNat entry.2))

def toJson (counts : Counts) : Json :=
  .record [("countries", dictionaryToJson counts.countries), ("asns", dictionaryToJson counts.asns),
    ("services", dictionaryToJson counts.services)]

end Counts

end HostDashboard
