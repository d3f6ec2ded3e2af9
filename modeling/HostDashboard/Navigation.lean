/-
**The part of the dashboard's state that lives in its link.**

A `Navigation` holds the selections, the filter fragments and the text of the search box. A link is
that state as a query string:

* `parse` reads any query string, with or without the question mark in front;
* `queryString` writes one, `href` puts the question mark before it;
* selected values are joined by commas, and on reading they lose their blanks and the empty ones are
  dropped; a fragment of blanks and an empty search text are dropped, and the last search text wins.
-/

import HostDashboard.Facets.Selections
import HostDashboard.Text.Escape
import HostDashboard.Text.Pieces

namespace HostDashboard

/-- The part of the state that lives in the link. -/
structure Navigation where
  /-- The selected facet values. -/
  selections : Selections := {}
  /-- Filter fragments, each the text of a JSON record. -/
  filters : List String := []
  /-- What stands in the search box. -/
  query : Option String := none
  deriving DecidableEq, Repr, Inhabited

namespace Navigation

/-- The values of a comma-separated list. -/
def listed (joined : List Char) : List String :=
  (((Text.pieces ',' joined).map Text.trim).filter fun value => !value.isEmpty).map String.ofList

/-- Adds the values of a list to one category. -/
def select (navigation : Navigation) (category : Category) (joined : List Char) : Navigation :=
  { navigation with
    selections := navigation.selections.set category
      (navigation.selections.get category ++ listed joined) }

/-- Takes one parameter of a link into account. -/
def addParameter (navigation : Navigation) (name value : List Char) : Navigation :=
  match Category.ofName? (String.ofList name) with
  | some category => navigation.select category value
  | none =>
    if String.ofList name = "filter" then
      if value.all Text.isBlank then navigation
      else { navigation with filters := navigation.filters ++ [String.ofList value] }
    else if String.ofList name = "query" then
      if value.isEmpty then navigation else { navigation with query := some (String.ofList value) }
    else navigation

/-- The text without a question mark in front. -/
def withoutMark : List Char → List Char
  | '?' :: rest => rest
  | source => source

/-- The state after some parameters. -/
def ofParameters (parameters : List (List Char × List Char)) : Navigation :=
  parameters.foldl (fun navigation pair => navigation.addParameter pair.1 pair.2) {}

/-- Reads a query string. -/
def read (source : List Char) : Navigation := ofParameters (Text.Form.pairs (withoutMark source))

/-- Reads a query string. -/
def parse (source : String) : Navigation := read source.toList

/-- The values of a category, joined by commas. -/
def joined (values : List String) : List Char := [','].intercalate (values.map String.toList)

/-- The parameters of the link of a state. -/
def parameters (navigation : Navigation) : List (List Char × List Char) :=
  (Category.all.filter fun category => !(navigation.selections.get category).isEmpty).map
      (fun category => (category.name.toList, joined (navigation.selections.get category)))
    ++ navigation.filters.map (fun fragment => ("filter".toList, fragment.toList))
    ++ navigation.query.toList.map (fun query => ("query".toList, query.toList))

/-- The query string of a state. -/
def queryString (navigation : Navigation) : String :=
  String.ofList (Text.Form.write navigation.parameters)

/-- The link of a state. -/
def href (navigation : Navigation) : String := "?" ++ navigation.queryString

/-- Takes a state out of a document. Every member must have a value, the unknown ones too. -/
def ofDocument? (document : Document) : Option Navigation := do
  let _ ← document.toJson?
  match document with
  | .record members =>
    let fields ← Document.knownMembers? ["countries", "asns", "services", "filters", "query"] members
    let texts := Document.asList? Document.asText?
    return {
      selections := {
        countries := ← Document.optional? fields "countries" [] texts
        asns := ← Document.optional? fields "asns" [] texts
        services := ← Document.optional? fields "services" [] texts }
      filters := ← Document.optional? fields "filters" [] texts
      query := ← Document.optional? fields "query" none (Document.orNull? Document.asText?) }
  | _ => none

/-- A state as a record; the search text only if there is one. -/
def toJson (navigation : Navigation) : Json :=
  .record ((Category.all.map fun category =>
      (category.name, .texts (navigation.selections.get category)))
    ++ [("filters", .texts navigation.filters)]
    ++ navigation.query.toList.map fun query => ("query", .text query))

end Navigation

end HostDashboard
