/-
**JSON values, and JSON documents as they were written.**

A `Json` is a value: what a filter is made of and what the program answers. A `Document` is a text
that was read but not yet given a meaning: it keeps the members of a record in their order with
repetitions, and it may hold literals that have no value (a number beyond the greatest double, a
string with half a surrogate pair). Such a literal does harm only where something needs its value.

* `Json.toDocument` writes a value as a document;
* `Document.toJson?` gives a document its value: repeated members keep their last value, and
  members are sorted by name.
-/

import HostDashboard.Dictionary
import HostDashboard.Decimal.Binary64

namespace HostDashboard

/-- A number: a whole one, or a double. -/
inductive Json.Number where
  /-- A whole number without fraction or exponent. -/
  | int (i : Int)
  /-- A double. -/
  | real (x : Decimal.Binary64)
  deriving DecidableEq, Repr

/-- A JSON value. -/
inductive Json where
  | null
  | bool (b : Bool)
  | number (n : Json.Number)
  | text (s : String)
  | list (items : List Json)
  | record (members : List (String × Json))
  deriving Repr, Inhabited

/-- A JSON text as it was written; `none` stands for a literal without a value. -/
inductive Document where
  | null
  | bool (b : Bool)
  | number (n : Option Json.Number)
  | text (s : Option String)
  | list (items : List Document)
  | record (members : List (Option String × Document))
  deriving Repr, Inhabited

namespace Json

/-- A whole number. -/
def ofInt (i : Int) : Json := .number (.int i)

/-- A natural number. -/
def ofNat (n : Nat) : Json := .number (.int n)

/-- A double. -/
def ofReal (x : Decimal.Binary64) : Json := .number (.real x)

def texts (items : List String) : Json := .list (items.map .text)

/-- A value that may be missing: null if it is. -/
def orNull (value : Option Json) : Json := value.getD .null

/-- A record of pairs, sorted by name; the last value of a repeated name wins. -/
def ofMembers (members : List (String × Json)) : Json :=
  .record (Dictionary.ofList members).entries

def isRecord : Json → Bool
  | .record _ => true
  | _ => false

mutual

/-- A value as a document. -/
def toDocument : Json → Document
  | .null => .null
  | .bool b => .bool b
  | .number n => .number (some n)
  | .text s => .text (some s)
  | .list items => .list (itemsToDocuments items)
  | .record members => .record (membersToDocuments members)

def itemsToDocuments : List Json → List Document
  | [] => []
  | item :: rest => item.toDocument :: itemsToDocuments rest

def membersToDocuments : List (String × Json) → List (Option String × Document)
  | [] => []
  | (name, value) :: rest => (some name, value.toDocument) :: membersToDocuments rest

end

end Json

namespace Document

/-- The greatest number of lists and records that may lie inside one another. -/
def greatestDepth : Nat := 127

mutual

/-- The number of lists and records inside one another. -/
def depth : Document → Nat
  | .list items => itemsDepth items + 1
  | .record members => membersDepth members + 1
  | _ => 0

/-- The greatest depth of some documents. -/
def itemsDepth : List Document → Nat
  | [] => 0
  | item :: rest => max item.depth (itemsDepth rest)

/-- The greatest depth of some members. -/
def membersDepth : List (Option String × Document) → Nat
  | [] => 0
  | (_, value) :: rest => max value.depth (membersDepth rest)

end

mutual

/-- The value of a document, unless a literal in it has none. -/
def value? : Document → Option Json
  | .null => some .null
  | .bool b => some (.bool b)
  | .number n => n.map .number
  | .text s => s.map .text
  | .list items => (itemValues? items).map .list
  | .record members => (memberValues? members).map Json.ofMembers

def itemValues? : List Document → Option (List Json)
  | [] => some []
  | item :: rest => do
    let value ← item.value?
    let others ← itemValues? rest
    return value :: others

/-- The names and values of some members. -/
def memberValues? : List (Option String × Document) → Option (List (String × Json))
  | [] => some []
  | (name, member) :: rest => do
    let known ← name
    let value ← member.value?
    let others ← memberValues? rest
    return (known, value) :: others

end

/-- The value of a document that is not nested too deeply. -/
def toJson? (document : Document) : Option Json :=
  if document.depth ≤ greatestDepth then document.value? else none

end Document

end HostDashboard
