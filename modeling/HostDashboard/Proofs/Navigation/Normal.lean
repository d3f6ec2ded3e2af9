/-
**What a link keeps of a state.**

In a link the values of a category are joined by commas. Reading cuts them apart at every comma, also at those
inside a value, trims the pieces and drops the empty ones; it drops blank fragments and an empty search text.
`normal` is what is left of a state, and `parse_href` says that nothing else happens to it on the way:

* the parameters are read as they were written (`Text.Form.pairs_write`), whatever characters they hold;
* `listed_joined`: joining values and cutting again is cutting every value on its own, since the commas that
  join are cut as well;
* `foldl_categories` and `foldl_filters`: every parameter puts its part back in place, in the order of the
  values and fragments, and as often as they stand there.
-/

import HostDashboard.Navigation
import HostDashboard.Proofs.Text.Form

namespace HostDashboard

theorem Category.ofName?_name (category : Category) : ofName? category.name = some category := by
  cases category <;> decide

/-- What a link keeps of the values of a category: the pieces of every value. -/
def Navigation.keptValues (values : List String) : List String :=
  values.flatMap fun value => listed value.toList

/-- What a link keeps of selections. -/
def Selections.normal (selections : Selections) : Selections where
  countries := Navigation.keptValues selections.countries
  asns := Navigation.keptValues selections.asns
  services := Navigation.keptValues selections.services

theorem Selections.get_normal (selections : Selections) (category : Category) :
    selections.normal.get category = Navigation.keptValues (selections.get category) := by
  cases category <;> rfl

namespace Navigation

/-- What a link keeps of fragments: those that are not blank. -/
def keptFragments (fragments : List String) : List String :=
  fragments.filter fun fragment => !Text.isBlankText fragment

/-- What a link keeps of a state. -/
def normal (navigation : Navigation) : Navigation where
  selections := navigation.selections.normal
  filters := keptFragments navigation.filters
  query := navigation.query.filter fun query => query ≠ ""

/-! ### Lists of values -/

theorem listed_append (first second : List Char) :
    listed (first ++ ',' :: second) = listed first ++ listed second := by
  simp only [listed, Text.pieces_append, List.map_append, List.filter_append]

/-- **Joining values and cutting again is cutting every value.** -/
theorem listed_joined (values : List String) : listed (joined values) = keptValues values := by
  induction values with
  | nil => rfl
  | cons value rest ih =>
    rw [keptValues, List.flatMap_cons, ← keptValues, ← ih]
    cases rest with
    | nil =>
      -- a single value is joined to nothing
      have alone : joined [value] = value.toList := List.append_nil _
      rw [alone]
      exact (List.append_nil _).symm
    | cons next others => exact listed_append value.toList (joined (next :: others))

/-! ### One parameter -/

theorem addParameter_category (navigation : Navigation) (category : Category) (values : List String) :
    navigation.addParameter category.name.toList (joined values) =
      { navigation with
        selections := navigation.selections.set category
          (navigation.selections.get category ++ keptValues values) } := by
  rw [addParameter, String.ofList_toList, Category.ofName?_name]
  dsimp only
  rw [select, listed_joined]

theorem addParameter_filter (navigation : Navigation) (fragment : String) :
    navigation.addParameter "filter".toList fragment.toList =
      { navigation with filters := navigation.filters ++ keptFragments [fragment] } := by
  rw [addParameter, String.ofList_toList, show Category.ofName? "filter" = none by decide]
  dsimp only
  rw [if_pos rfl, String.ofList_toList, ← Text.isBlankText]
  cases blank : Text.isBlankText fragment <;> simp [keptFragments, blank]

theorem addParameter_query (navigation : Navigation) (query : String) :
    navigation.addParameter "query".toList query.toList =
      { navigation with query := if query = "" then navigation.query else some query } := by
  rw [addParameter, String.ofList_toList, show Category.ofName? "query" = none by decide]
  dsimp only
  rw [if_neg (by decide), if_pos rfl, String.ofList_toList]
  by_cases empty : query = ""
  · subst empty
    rfl
  · rw [if_neg empty, if_neg]
    rwa [List.isEmpty_iff, String.toList_eq_nil_iff]

/-! ### All parameters of a link -/

theorem foldl_filters (fragments : List String) (navigation : Navigation) :
    (fragments.map fun fragment => ("filter".toList, fragment.toList)).foldl
        (fun navigation pair => navigation.addParameter pair.1 pair.2) navigation =
      { navigation with filters := navigation.filters ++ keptFragments fragments } := by
  induction fragments generalizing navigation with
  | nil =>
    rw [keptFragments, List.filter_nil, List.append_nil]
    rfl
  | cons fragment rest ih =>
    have kept : keptFragments (fragment :: rest) = keptFragments [fragment] ++ keptFragments rest :=
      List.filter_append [fragment] rest
    rw [List.map_cons, List.foldl_cons, addParameter_filter, ih, List.append_assoc, kept]

theorem foldl_categories (selections : Selections) :
    ((Category.all.filter fun category => !(selections.get category).isEmpty).map
        fun category => (category.name.toList, joined (selections.get category))).foldl
        (fun (navigation : Navigation) pair => navigation.addParameter pair.1 pair.2) {} =
      { selections := selections.normal } := by
  -- a category without values adds nothing, so it makes no difference that it is left out
  have each : ∀ (navigation : Navigation) (category : Category),
      (if (!(selections.get category).isEmpty) = true then
        navigation.addParameter category.name.toList (joined (selections.get category))
      else navigation) =
        { navigation with
          selections := navigation.selections.set category
            (navigation.selections.get category ++ keptValues (selections.get category)) } := by
    intro navigation category
    split
    · exact addParameter_category navigation category (selections.get category)
    · next empty =>
      rw [Bool.not_eq_true', Bool.not_eq_false, List.isEmpty_iff] at empty
      rw [empty, keptValues, List.flatMap_nil, List.append_nil]
      cases category <;> rfl
  rw [List.foldl_map, List.foldl_filter]
  simp only [each]
  rfl

/-- **The state of a link is what the link keeps.** -/
theorem parse_href (navigation : Navigation) : parse navigation.href = navigation.normal := by
  have written : navigation.queryString.toList = Text.Form.write navigation.parameters :=
    String.toList_ofList
  have source : navigation.href.toList = '?' :: Text.Form.write navigation.parameters := by
    rw [href, String.toList_append, written]
    rfl
  rw [parse, source, read, withoutMark, Text.Form.pairs_write, ofParameters, parameters,
    List.foldl_append, List.foldl_append, foldl_categories, foldl_filters]
  obtain ⟨selections, filters, query⟩ := navigation
  cases query with
  | none => rfl
  | some query =>
    rw [Option.toList_some, List.map_singleton, List.foldl_cons, List.foldl_nil, addParameter_query]
    by_cases empty : query = "" <;> simp [normal, Option.filter_some, empty]

end Navigation

end HostDashboard
