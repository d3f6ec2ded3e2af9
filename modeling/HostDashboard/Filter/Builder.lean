/-
**The filter of a state of the dashboard.**

The selections go in first, a set of values for every category that is not empty; the fragments are
merged on top in their order, so a fragment that names the same field has its way.

* A selected autonomous system that is no number makes the whole filter fail.
* A fragment that is no JSON record is left out, and counted.
-/

import HostDashboard.Facets.Counts
import HostDashboard.Filter.Basic
import HostDashboard.Navigation

namespace HostDashboard

/-- The field of the filter that a category selects on. -/
def Category.field : Category → String
  | countries => "asn.country"
  | asns => "asn.number"
  | services => "services.protocol"

/-- The filter that a fragment writes. The text is read as a value first, so that of a repeated
member only the last counts. -/
def Filter.ofFragment (fragment : String) : Except Failure Filter :=
  match Json.parse? fragment with
  | none => .error (.json "not a JSON text")
  | some value =>
    if value.isRecord then
      match Filter.ofDocument? value.toDocument with
      | some filter => .ok filter
      | none => .error (.json "not a filter")
    else .error (.malformed "filter fragment is not a JSON object")

/-- A filter as it grows, and the number of fragments left out. -/
structure FilterBuilder where
  filter : Filter := .empty
  skipped : Nat := 0
  deriving Inhabited

namespace FilterBuilder

/-- Adds a set of values on the field of a category, if there are any. -/
def select (builder : FilterBuilder) (category : Category) (values : List Json) : FilterBuilder :=
  if values.isEmpty then builder
  else { builder with filter := builder.filter.insertAmong category.field values }

/-- Adds the selections. -/
def selections (builder : FilterBuilder) (selections : Selections) :
    Except Failure FilterBuilder := do
  let numbers ← selections.asns.mapM Asn.parse
  return ((builder.select .countries (selections.countries.map .text)).select
    .asns (numbers.map .ofNat)).select .services (selections.services.map .text)

/-- Merges a fragment, or leaves it out. -/
def fragment (builder : FilterBuilder) (source : String) : FilterBuilder :=
  match Filter.ofFragment source with
  | .ok filter => { builder with filter := builder.filter.merge filter }
  | .error _ => { builder with skipped := builder.skipped + 1 }

/-- Merges fragments from left to right. -/
def fragments (builder : FilterBuilder) (sources : List String) : FilterBuilder :=
  sources.foldl fragment builder

end FilterBuilder

/-- The filter of a state. -/
def Navigation.filter (navigation : Navigation) : Except Failure Filter := do
  let builder ← ({} : FilterBuilder).selections navigation.selections
  return (builder.fragments navigation.filters).filter

end HostDashboard
