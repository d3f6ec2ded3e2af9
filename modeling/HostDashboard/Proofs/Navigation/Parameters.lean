/-
**What a link says under each name.**

Reading a link takes its parameters one after another. Each of them adds to the part of the state that its name
stands for, behind what is there, and leaves the other parts alone; a name that stands for no part adds nothing.
So the state is known by the values under each of five names, in their order.

* `under` are the values under a name, and `get_ofParameters`, `filters_ofParameters` and `query_ofParameters`
  read the parts of the state off them, by induction on the last parameter;
* `pairs_joined`: texts joined by `&` have the pairs of one after those of the other, so `under` of them is
  known from `under` of each;
* `links_concatenate` puts this together: for two texts with `&` between them, for a parameter that says nothing,
  and for two parameters that change places.
-/

import HostDashboard.Proofs.Navigation.Normal

namespace HostDashboard

theorem Category.name_of_ofName? {name : String} {category : Category}
    (found : ofName? name = some category) : name = category.name := by
  have same := List.find?_some found
  exact (of_decide_eq_true same).symm

theorem Category.name_injective : Function.Injective Category.name := fun first second same => by
  rw [← Option.some.injEq, ← ofName?_name first, same, ofName?_name]

namespace Navigation

/-- The names that stand for a part of the state. -/
def names : List String := Category.all.map Category.name ++ ["filter", "query"]

theorem name_mem_names (category : Category) : category.name ∈ names := by
  cases category <;> decide

/-! ### The values under a name -/

/-- The values under a name, in their order. -/
def under (name : String) (parameters : List (List Char × List Char)) : List (List Char) :=
  (parameters.filter fun pair => String.ofList pair.1 = name).map Prod.snd

theorem under_append (name : String) (first second : List (List Char × List Char)) :
    under name (first ++ second) = under name first ++ under name second := by
  rw [under, List.filter_append, List.map_append, under, under]

theorem under_single (own : String) (name value : List Char) :
    under own [(name, value)] = if String.ofList name = own then [value] else [] := by
  by_cases same : String.ofList name = own <;> simp [under, same]

/-- The search text among some values: the last one that is not empty. -/
def lastText (values : List (List Char)) : Option String :=
  ((values.map String.ofList).filter fun text => text ≠ "").getLast?

theorem lastText_append (first second : List (List Char)) :
    lastText (first ++ second) = (lastText second).or (lastText first) := by
  rw [lastText, List.map_append, List.filter_append, List.getLast?_append, lastText, lastText]

theorem keptFragments_append (first second : List String) :
    keptFragments (first ++ second) = keptFragments first ++ keptFragments second :=
  List.filter_append first second

/-! ### One parameter -/

section AddParameter

variable (navigation : Navigation) (name value : List Char)

/-- **What a parameter can do**: select values, add a fragment, set the search text, or nothing. -/
theorem addParameter_cases :
    (∃ category : Category, String.ofList name = category.name ∧
        navigation.addParameter name value = navigation.select category value) ∨
      (String.ofList name = "filter" ∧ navigation.addParameter name value =
        { navigation with filters := navigation.filters ++ keptFragments [String.ofList value] }) ∨
      (String.ofList name = "query" ∧ navigation.addParameter name value =
        { navigation with query := (lastText [value]).or navigation.query }) ∨
      (String.ofList name ∉ names ∧ navigation.addParameter name value = navigation) := by
  cases found : Category.ofName? (String.ofList name) with
  | some category =>
    refine .inl ⟨category, Category.name_of_ofName? found, ?_⟩
    rw [addParameter, found]
  | none =>
    by_cases filter : String.ofList name = "filter"
    · have written := navigation.addParameter_filter (String.ofList value)
      rw [← filter, String.toList_ofList, String.toList_ofList] at written
      exact .inr (.inl ⟨filter, written⟩)
    by_cases query : String.ofList name = "query"
    · have written := navigation.addParameter_query (String.ofList value)
      rw [← query, String.toList_ofList, String.toList_ofList] at written
      refine .inr (.inr (.inl ⟨query, written.trans ?_⟩))
      by_cases empty : String.ofList value = "" <;> simp [lastText, empty]
    · refine .inr (.inr (.inr ⟨fun known => ?_, ?_⟩))
      · rcases List.mem_append.mp known with ofCategory | other
        · obtain ⟨category, _, same⟩ := List.mem_map.mp ofCategory
          rw [← same, Category.ofName?_name] at found
          cases found
        · simp [filter, query] at other
      · rw [addParameter, found]
        dsimp only
        rw [if_neg filter, if_neg query]

theorem get_addParameter (category : Category) :
    (navigation.addParameter name value).selections.get category =
      navigation.selections.get category ++ (under category.name [(name, value)]).flatMap listed := by
  rw [under_single]
  rcases navigation.addParameter_cases name value with
    ⟨own, same, result⟩ | ⟨same, result⟩ | ⟨same, result⟩ | ⟨unknown, result⟩
  · rw [result, same, select, Selections.get_set]
    by_cases here : category = own
    · subst here
      rw [if_pos rfl, if_pos rfl, List.flatMap_singleton]
    · rw [if_neg here, if_neg fun named => here (Category.name_injective named.symm), List.flatMap_nil,
        List.append_nil]
  · rw [result, same]
    cases category <;> exact (List.append_nil _).symm
  · rw [result, same]
    cases category <;> exact (List.append_nil _).symm
  · rw [result, if_neg (ne_of_mem_of_not_mem (name_mem_names category) unknown).symm,
      List.flatMap_nil, List.append_nil]

theorem filters_addParameter :
    (navigation.addParameter name value).filters =
      navigation.filters ++ keptFragments ((under "filter" [(name, value)]).map String.ofList) := by
  rw [under_single]
  rcases navigation.addParameter_cases name value with
    ⟨own, same, result⟩ | ⟨same, result⟩ | ⟨same, result⟩ | ⟨unknown, result⟩
  · rw [result, same]
    cases own <;> exact (List.append_nil _).symm
  · rw [result, if_pos same, List.map_singleton]
  · rw [result, same]
    exact (List.append_nil _).symm
  · rw [result, if_neg (ne_of_mem_of_not_mem (by decide) unknown).symm]
    exact (List.append_nil _).symm

theorem query_addParameter :
    (navigation.addParameter name value).query =
      (lastText (under "query" [(name, value)])).or navigation.query := by
  rw [under_single]
  rcases navigation.addParameter_cases name value with
    ⟨own, same, result⟩ | ⟨same, result⟩ | ⟨same, result⟩ | ⟨unknown, result⟩
  · rw [result, same]
    cases own <;> rfl
  · rw [result, same]
    rfl
  · rw [result, if_pos same]
  · rw [result, if_neg (ne_of_mem_of_not_mem (by decide) unknown).symm]
    rfl

end AddParameter

/-! ### All parameters of a link -/

theorem ofParameters_concat (parameters : List (List Char × List Char)) (pair : List Char × List Char) :
    ofParameters (parameters ++ [pair]) = (ofParameters parameters).addParameter pair.1 pair.2 := by
  rw [ofParameters, List.foldl_append]
  rfl

section OfParameters

variable (parameters : List (List Char × List Char))

/-- **The selected values are those listed under the name of the category.** -/
theorem get_ofParameters (category : Category) :
    (ofParameters parameters).selections.get category =
      (under category.name parameters).flatMap listed := by
  induction parameters using List.reverseRecOn with
  | nil => cases category <;> rfl
  | append_singleton rest pair ih =>
    rw [ofParameters_concat, get_addParameter, ih, under_append, List.flatMap_append]

theorem filters_ofParameters :
    (ofParameters parameters).filters =
      keptFragments ((under "filter" parameters).map String.ofList) := by
  induction parameters using List.reverseRecOn with
  | nil => rfl
  | append_singleton rest pair ih =>
    rw [ofParameters_concat, filters_addParameter, ih, under_append, List.map_append,
      keptFragments_append]

theorem query_ofParameters : (ofParameters parameters).query = lastText (under "query" parameters) := by
  induction parameters using List.reverseRecOn with
  | nil => rfl
  | append_singleton rest pair ih =>
    rw [ofParameters_concat, query_addParameter, ih, under_append, lastText_append]

end OfParameters

theorem eq_of_parts {first second : Navigation}
    (selections : ∀ category, first.selections.get category = second.selections.get category)
    (filters : first.filters = second.filters) (query : first.query = second.query) :
    first = second := by
  cases first
  cases second
  rw [mk.injEq]
  exact ⟨Selections.eq_of_get selections, filters, query⟩

/-- **Nothing counts but the values under the names that stand for something.** -/
theorem ofParameters_congr {first second : List (List Char × List Char)}
    (same : ∀ name ∈ names, under name first = under name second) :
    ofParameters first = ofParameters second := by
  refine eq_of_parts (fun category => ?_) ?_ ?_
  · rw [get_ofParameters, get_ofParameters, same _ (name_mem_names category)]
  · rw [filters_ofParameters, filters_ofParameters, same "filter" (by decide)]
  · rw [query_ofParameters, query_ofParameters, same "query" (by decide)]

/-! ### Links put together -/

theorem withoutMark_of_head? {source : List Char} (unmarked : source.head? ≠ some '?') :
    withoutMark source = source := by
  unfold withoutMark
  split
  · next rest => exact absurd rfl unmarked
  · rfl

/-- Only what stands in front of a link can be its question mark. -/
theorem withoutMark_append (first second : List Char) :
    withoutMark (first ++ '&' :: second) = withoutMark first ++ '&' :: second := by
  by_cases marked : first.head? = some '?'
  · obtain ⟨rest, rfl⟩ := List.head?_eq_some_iff.mp marked
    rfl
  · rw [withoutMark_of_head? marked, withoutMark_of_head?]
    cases first with
    | nil => simp
    | cons head tail => exact marked

/-- **The parameters of two texts with `&` between them** are those of the first and those of the second. -/
theorem parse_append (first : String) {second : String} (unmarked : second.toList.head? ≠ some '?') :
    parse (first ++ "&" ++ second) =
      ofParameters (Text.Form.pairs (withoutMark first.toList) ++
        Text.Form.pairs (withoutMark second.toList)) := by
  have source : (first ++ "&" ++ second).toList = first.toList ++ '&' :: second.toList := by
    rw [String.toList_append, String.toList_append, List.append_assoc]
    rfl
  rw [parse, read, source, withoutMark_append, Text.Form.pairs_append, withoutMark_of_head? unmarked]

/-- One parameter as it is written in a link, and no question mark in front of it. -/
structure IsParameter (text : String) : Prop where
  whole : '&' ∉ text.toList
  unmarked : text.toList.head? ≠ some '?'

instance (text : String) : Decidable (IsParameter text) :=
  decidable_of_iff ('&' ∉ text.toList ∧ text.toList.head? ≠ some '?')
    ⟨fun ⟨whole, unmarked⟩ => ⟨whole, unmarked⟩, fun ⟨whole, unmarked⟩ => ⟨whole, unmarked⟩⟩

/-- The name that a written parameter is read as. -/
def nameOf (text : String) : String := String.ofList (Text.Form.pairOf text.toList).1

/-- A parameter says nothing under another name than its own. -/
theorem under_of_nameOf_ne {text name : String} (parameter : IsParameter text)
    (differs : nameOf text ≠ name) : under name (Text.Form.pairs text.toList) = [] := by
  rw [Text.Form.pairs_of_notMem parameter.whole]
  split
  · rfl
  · exact (under_single _ _ _).trans (if_neg differs)

/-- Texts without question marks in front, joined by `&`, have none in front either. -/
theorem head?_joined {texts : List (List Char)} (unmarked : ∀ text ∈ texts, text.head? ≠ some '?') :
    (['&'].intercalate texts).head? ≠ some '?' := by
  cases texts with
  | nil => decide
  | cons text rest =>
    have first := unmarked text List.mem_cons_self
    cases rest with
    | nil => rwa [List.intercalate_singleton]
    | cons next others =>
      rw [List.intercalate_cons_cons]
      cases text with
      | nil => simp
      | cons head tail => exact first

theorem parse_joined {texts : List String} (parameters : ∀ text ∈ texts, IsParameter text) :
    parse ("&".intercalate texts) =
      ofParameters (texts.flatMap fun text => Text.Form.pairs text.toList) := by
  have source : ("&".intercalate texts).toList = ['&'].intercalate (texts.map String.toList) :=
    String.toList_intercalate
  have unmarked : ∀ text ∈ texts.map String.toList, text.head? ≠ some '?' := by
    intro text member
    obtain ⟨parameter, inside, rfl⟩ := List.mem_map.mp member
    exact (parameters parameter inside).unmarked
  rw [parse, source, read, withoutMark_of_head? (head?_joined unmarked), Text.Form.pairs_joined,
    List.flatMap_map]

section Joined

variable {before after : List String}

/-- **Links that say the same under every name that counts are links of one state.** -/
theorem parse_joined_congr {first second : List String} (here : ∀ text ∈ first, IsParameter text)
    (there : ∀ text ∈ second, IsParameter text)
    (same : ∀ name ∈ names, under name (first.flatMap fun text => Text.Form.pairs text.toList) =
      under name (second.flatMap fun text => Text.Form.pairs text.toList)) :
    parse ("&".intercalate first) = parse ("&".intercalate second) := by
  rw [parse_joined here, parse_joined there, ofParameters_congr same]

/-- A parameter whose name stands for nothing may as well not be there. -/
theorem parse_joined_ignored {text : String}
    (parameters : ∀ other ∈ before ++ text :: after, IsParameter other) (unknown : nameOf text ∉ names) :
    parse ("&".intercalate (before ++ text :: after)) = parse ("&".intercalate (before ++ after)) := by
  have fewer : before ++ after ⊆ before ++ text :: after :=
    ((List.sublist_cons_self text after).append_left before).subset
  refine parse_joined_congr parameters (fun other member => parameters other (fewer member))
    fun name member => ?_
  have silent := under_of_nameOf_ne (parameters text (List.mem_append_right _ List.mem_cons_self))
    fun same => unknown (same ▸ member)
  rw [List.flatMap_append, List.flatMap_append, List.flatMap_cons, under_append, under_append,
    under_append, silent, List.nil_append]

/-- Neighbours with different names may change places. -/
theorem parse_joined_swap {first second : String}
    (parameters : ∀ text ∈ before ++ first :: second :: after, IsParameter text)
    (differ : nameOf first ≠ nameOf second) :
    parse ("&".intercalate (before ++ first :: second :: after)) =
      parse ("&".intercalate (before ++ second :: first :: after)) := by
  have same := (List.Perm.swap second first after).append_left before
  refine parse_joined_congr parameters (fun text member => parameters text (same.mem_iff.mpr member))
    fun name _ => ?_
  have one := parameters first (by simp)
  have other := parameters second (by simp)
  rw [List.flatMap_append, List.flatMap_append]
  simp only [List.flatMap_cons, under_append]
  -- a name is the name of one of the two at most
  by_cases own : nameOf first = name
  · simp only [under_of_nameOf_ne other fun again => differ (own.trans again.symm), List.nil_append]
  · simp only [under_of_nameOf_ne one own, List.nil_append]

end Joined

/-- **Links put together give their states put together.** For two texts with `&` between them, of which the
second has no question mark in front:

* the values of every category and the filter fragments are those of the first text and then those of the
  second, and the search text is that of the second, or of the first if the second has none.

For a list of parameters without question marks in front, joined by `&`:

* a parameter whose name stands for nothing can be put in or left out at any place;
* two neighbours with different names can change places. -/
theorem links_concatenate :
    (∀ first second : String, second.toList.head? ≠ some '?' →
      (∀ category, (parse (first ++ "&" ++ second)).selections.get category =
        (parse first).selections.get category ++ (parse second).selections.get category) ∧
      (parse (first ++ "&" ++ second)).filters = (parse first).filters ++ (parse second).filters ∧
      (parse (first ++ "&" ++ second)).query = (parse second).query.or (parse first).query) ∧
    (∀ (before after : List String) (text : String),
      (∀ other ∈ before ++ text :: after, IsParameter other) → nameOf text ∉ names →
        parse ("&".intercalate (before ++ text :: after)) = parse ("&".intercalate (before ++ after))) ∧
    ∀ (before after : List String) (first second : String),
      (∀ text ∈ before ++ first :: second :: after, IsParameter text) →
        nameOf first ≠ nameOf second →
          parse ("&".intercalate (before ++ first :: second :: after)) =
            parse ("&".intercalate (before ++ second :: first :: after)) := by
  refine ⟨fun first second unmarked => ?_, fun _ _ _ => parse_joined_ignored,
    fun _ _ _ _ => parse_joined_swap⟩
  rw [parse_append first unmarked]
  refine ⟨fun category => ?_, ?_, ?_⟩
  · rw [get_ofParameters, under_append, List.flatMap_append, ← get_ofParameters, ← get_ofParameters]
    rfl
  · rw [filters_ofParameters, under_append, List.map_append, keptFragments_append,
      ← filters_ofParameters, ← filters_ofParameters]
    rfl
  · rw [query_ofParameters, under_append, lastText_append, ← query_ofParameters, ← query_ofParameters]
    rfl

/-- Both texts select countries, the second under a name with an escape; a page number stands among the
parameters, and a fragment between the two others. -/
theorem links_concatenate_escaped :
    "count%72ies=+Cuba&query=".toList.head? ≠ some '?' ∧
      (parse ("?query=a&countries=Chile%2CPeru" ++ "&" ++ "count%72ies=+Cuba&query=")).selections.countries
        = ["Chile", "Peru", "Cuba"] ∧
      (parse ("?query=a&countries=Chile%2CPeru" ++ "&" ++ "count%72ies=+Cuba&query=")).query = some "a" ∧
      (∀ text ∈ ["asns=AS1", "page=2", "filter=%7B%7D"], IsParameter text) ∧
      nameOf "page=2" ∉ names ∧ nameOf "asns=AS1" ≠ nameOf "filter=%7B%7D" ∧
      parse ("&".intercalate ["asns=AS1", "page=2", "filter=%7B%7D"]) =
        parse ("&".intercalate ["filter=%7B%7D", "asns=AS1"]) := by
  have unmarked : "count%72ies=+Cuba&query=".toList.head? ≠ some '?' := by decide
  have unknown : nameOf "page=2" ∉ names := by decide
  have differ : nameOf "asns=AS1" ≠ nameOf "filter=%7B%7D" := by decide
  have parameters : ∀ text ∈ ["asns=AS1", "page=2", "filter=%7B%7D"], IsParameter text := by decide
  have fewer : ∀ text ∈ ["asns=AS1", "filter=%7B%7D"], IsParameter text := by decide
  obtain ⟨joined, ignored, swapped⟩ := links_concatenate
  obtain ⟨values, _, search⟩ := joined "?query=a&countries=Chile%2CPeru" _ unmarked
  refine ⟨unmarked, (values .countries).trans ?_, search.trans ?_, parameters, unknown, differ, ?_⟩
  · decide +kernel
  · decide +kernel
  · exact (ignored ["asns=AS1"] ["filter=%7B%7D"] "page=2" parameters unknown).trans
      (swapped [] [] "asns=AS1" "filter=%7B%7D" fewer differ)

end Navigation

end HostDashboard
