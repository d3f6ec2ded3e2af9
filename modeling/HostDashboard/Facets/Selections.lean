/-
**Facet categories and what is selected in them.**

The sidebar has three categories. A selection is a list of values per category, in the order in which
they were selected; a value may stand there twice.
-/

import HostDashboard.Json.Decode

namespace HostDashboard

/-- A category of the sidebar. -/
inductive Category where
  | countries
  | asns
  | services
  deriving DecidableEq, Repr

namespace Category

/-- The categories in the order in which they are shown. -/
def all : List Category := [.countries, .asns, .services]

/-- The name of a category in links and requests. -/
def name : Category → String
  | countries => "countries"
  | asns => "asns"
  | services => "services"

def ofName? (name : String) : Option Category := all.find? fun category => category.name = name

/-- A category is given by its name, or as a record with that one name over null. -/
def ofDocument? : Document → Option Category
  | .text (some name) => ofName? name
  | .record [(some name, .null)] => ofName? name
  | _ => none

end Category

/-- The selected values of every category. -/
structure Selections where
  countries : List String := []
  asns : List String := []
  services : List String := []
  deriving DecidableEq, Repr, Inhabited

namespace Selections

def get (selections : Selections) : Category → List String
  | .countries => selections.countries
  | .asns => selections.asns
  | .services => selections.services

/-- The selections with other values in one category. -/
def set (selections : Selections) (category : Category) (values : List String) : Selections :=
  match category with
  | .countries => { selections with countries := values }
  | .asns => { selections with asns := values }
  | .services => { selections with services := values }

/-- Nothing is selected. -/
def isEmpty (selections : Selections) : Bool :=
  Category.all.all fun category => (selections.get category).isEmpty

/-- A value out of some values if it is there, at its first place, and else put at the end. -/
def flip (value : String) (values : List String) : List String :=
  if value ∈ values then values.erase value else values ++ [value]

/-- The selections with one value of one category flipped. -/
def toggle (selections : Selections) (category : Category) (value : String) : Selections :=
  selections.set category (flip value (selections.get category))

def toJson (selections : Selections) : Json :=
  .record (Category.all.map fun category => (category.name, .texts (selections.get category)))

/-- What was set is what is got, and other categories keep theirs. -/
theorem get_set (selections : Selections) (set get : Category) (values : List String) :
    (selections.set set values).get get = if get = set then values else selections.get get := by
  cases set <;> cases get <;> rfl

/-- Selections are known by what they hold in each category. -/
theorem eq_of_get {first second : Selections}
    (same : ∀ category, first.get category = second.get category) : first = second := by
  cases first
  cases second
  simp only [mk.injEq]
  exact ⟨same .countries, same .asns, same .services⟩

end Selections

end HostDashboard
