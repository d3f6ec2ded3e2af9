/-
**Filters: one clause per field.**

A filter is a dictionary from dotted field paths to clauses, all of which must hold. A clause asks for
one of some values, or states one value (or another operator the search API knows) literally.

* `merge` lets the second filter win on every field that it has;
* `param` is the text in which a filter is sent: compact JSON with the fields in order;
* a clause is read as a set of values where it is written as one, `{"$in": [..]}` with that member only
  or a list of just one list, and literally otherwise.
-/

import HostDashboard.Json.Decode
import HostDashboard.Json.Printer

namespace HostDashboard

/-- What a filter asks of a field. -/
inductive Clause where
  /-- The field has one of some values. -/
  | among (values : List Json)
  /-- The field has a value. -/
  | equals (value : Json)
  deriving Repr, Inhabited

namespace Clause

/-- The name of the member that holds a set of values. -/
def amongName : String := "$in"

/-- A clause as a value. -/
def toJson : Clause → Json
  | .among values => .record [(amongName, .list values)]
  | .equals value => value

/-- The documents of the values of a set, if a document is written as one. -/
def amongItems? : Document → Option (List Document)
  | .record [(some name, .list items)] => if name = amongName then some items else none
  | .list [.list items] => some items
  | _ => none

/-- The clause that a document writes, if its literals have values. -/
def ofDocument? (document : Document) : Option Clause :=
  match amongItems? document with
  | some items => (Document.itemValues? items).map .among
  | none => document.value?.map .equals

end Clause

/-- Clauses by field. -/
structure Filter where
  clauses : Dictionary Clause := .empty
  deriving Inhabited

namespace Filter

/-- The filter that every host passes. -/
def empty : Filter := {}

/-- The filter without clauses. -/
def isEmpty (filter : Filter) : Bool := filter.clauses.isEmpty

/-- The number of clauses. -/
def size (filter : Filter) : Nat := filter.clauses.size

def get? (filter : Filter) (field : String) : Option Clause := filter.clauses.get? field

/-- The fields with a clause, in increasing order. -/
def fields (filter : Filter) : List String := filter.clauses.keys

/-- Puts a clause on a field, in place of an earlier one. -/
def insert (filter : Filter) (field : String) (clause : Clause) : Filter :=
  ⟨filter.clauses.insert field clause⟩

/-- Asks for one of some values. -/
def insertAmong (filter : Filter) (field : String) (values : List Json) : Filter :=
  filter.insert field (.among values)

/-- Asks for a value. -/
def insertEquals (filter : Filter) (field : String) (value : Json) : Filter :=
  filter.insert field (.equals value)

/-- The clauses of both filters; on a field of both, that of the second. -/
def merge (first second : Filter) : Filter := ⟨first.clauses.merge second.clauses⟩

def toJson (filter : Filter) : Json :=
  .record (filter.clauses.entries.map fun entry => (entry.1, entry.2.toJson))

/-- The text in which a filter is sent. -/
def param (filter : Filter) : String := filter.toJson.print

def ofDocument? (document : Document) : Option Filter :=
  (document.asDictionary? Clause.ofDocument?).map Filter.mk

/-- The filter that a text writes, if the text is a record that is not nested too deeply. -/
def parse? (source : String) : Option Filter :=
  (Document.parse? source).bind fun document =>
    if document.depth ≤ Document.greatestDepth then ofDocument? document else none

end Filter

end HostDashboard
