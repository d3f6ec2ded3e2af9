/-
**How the filter of a state is composed.**

The selections go in first, then the fragments are merged on top, one after the other. So on every field the
last fragment that states a clause there has its way, and only where none does the selections count.

* `Filter.get?_merge`: of two filters that are merged the second has its way;
* `FilterBuilder.get?_fragments`: what any number of fragments leave on a field. `skipped_fragments` counts
  those that are left out, and `filter_fragments_of_records` says that these make no difference;
* `FilterBuilder.get?_selections`: the selections put a set of values on the field of every category that is
  not empty (`Selections.clause?`);
* `filter_composed` puts this together.
-/

import HostDashboard.Proofs.Filter.Fragment
import HostDashboard.Proofs.Filter.Sent

namespace HostDashboard

namespace Filter

theorem get?_insert (filter : Filter) (field other : String) (clause : Clause) :
    (filter.insert field clause).get? other = if other = field then some clause else filter.get? other :=
  filter.clauses.get?_insert field other clause

theorem get?_merge (first second : Filter) (field : String) :
    (first.merge second).get? field = (second.get? field).or (first.get? field) :=
  first.clauses.get?_merge second.clauses field

/-- What the last of some fragments to state a clause on a field states there. -/
def lastStated? (field : String) (fragments : List String) : Option Clause :=
  (fragments.filterMap (stated? field)).getLast?

theorem lastStated?_cons (field fragment : String) (rest : List String) :
    lastStated? field (fragment :: rest) = (lastStated? field rest).or (stated? field fragment) := by
  unfold lastStated?
  rw [List.filterMap_cons]
  cases stated? field fragment with
  | none => exact Option.or_none.symm
  | some clause =>
    dsimp only
    rw [List.getLast?_cons]
    cases (rest.filterMap (stated? field)).getLast? <;> rfl

end Filter

namespace FilterBuilder

variable (builder : FilterBuilder)

/-! ### Fragments -/

theorem fragment_of_error {source : String} {failure : Failure}
    (refused : Filter.ofFragment source = .error failure) :
    builder.fragment source = { builder with skipped := builder.skipped + 1 } := by
  rw [fragment, refused]

theorem fragment_of_ok {source : String} {filter : Filter} (read : Filter.ofFragment source = .ok filter) :
    builder.fragment source = { builder with filter := builder.filter.merge filter } := by
  rw [fragment, read]

theorem fragments_cons (source : String) (rest : List String) :
    builder.fragments (source :: rest) = (builder.fragment source).fragments rest := rfl

theorem get?_fragment (source field : String) :
    (builder.fragment source).filter.get? field =
      (Filter.stated? field source).or (builder.filter.get? field) := by
  cases read : Filter.ofFragment source with
  | ok filter =>
    rw [fragment_of_ok builder read, Filter.get?_merge, Filter.get?_of_ofFragment read]
  | error failure =>
    rw [fragment_of_error builder read, Filter.stated?_of_other (Filter.isRecordText_of_error read)]
    rfl

/-- **The last fragment that states a clause on a field has its way.** -/
theorem get?_fragments (sources : List String) (field : String) :
    (builder.fragments sources).filter.get? field =
      (Filter.lastStated? field sources).or (builder.filter.get? field) := by
  induction sources generalizing builder with
  | nil => rfl
  | cons source rest ih =>
    rw [fragments_cons, ih, get?_fragment, Filter.lastStated?_cons, Option.or_assoc]

/-- **The fragments that are left out are those that are no records.** -/
theorem skipped_fragments (sources : List String) :
    (builder.fragments sources).skipped =
      builder.skipped + sources.countP fun source => !Filter.isRecordText source := by
  induction sources generalizing builder with
  | nil => rfl
  | cons source rest ih =>
    rw [fragments_cons, ih, List.countP_cons]
    cases read : Filter.ofFragment source with
    | ok filter =>
      rw [fragment_of_ok builder read, Filter.isRecordText_of_ok read]
      rfl
    | error failure =>
      rw [fragment_of_error builder read, Filter.isRecordText_of_error read]
      show builder.skipped + 1 + _ = builder.skipped + (_ + 1)
      omega

/-- **A fragment that is left out makes no difference to the filter.** -/
theorem filter_fragments_of_records {first second : FilterBuilder} (same : first.filter = second.filter)
    (sources : List String) :
    (first.fragments (sources.filter Filter.isRecordText)).filter = (second.fragments sources).filter := by
  induction sources generalizing first second with
  | nil => exact same
  | cons source rest ih =>
    cases read : Filter.ofFragment source with
    | ok filter =>
      rw [List.filter_cons_of_pos (Filter.isRecordText_of_ok read), fragments_cons, fragments_cons]
      refine ih ?_
      rw [fragment_of_ok first read, fragment_of_ok second read, same]
    | error failure =>
      have other : ¬ Filter.isRecordText source = true :=
        Bool.eq_false_iff.mp (Filter.isRecordText_of_error read)
      rw [List.filter_cons_of_neg other, fragments_cons]
      refine ih ?_
      rw [fragment_of_error second read, same]

/-! ### Selections -/

theorem get?_select (category : Category) (values : List Json) (field : String) :
    (builder.select category values).filter.get? field =
      if field = category.field ∧ values ≠ [] then some (.among values)
      else builder.filter.get? field := by
  unfold select
  cases values with
  | nil => simp
  | cons value rest => simp [Filter.insertAmong, Filter.get?_insert]

theorem skipped_select (category : Category) (values : List Json) :
    (builder.select category values).skipped = builder.skipped := by
  unfold select
  split <;> rfl

end FilterBuilder

/-- The category that selects on a field. -/
def Category.ofField? (field : String) : Option Category := all.find? fun category => category.field = field

theorem Category.ofField?_field (category : Category) : ofField? category.field = some category := by
  cases category <;> decide

theorem Category.field_inj {first second : Category} : first.field = second.field ↔ first = second := by
  refine ⟨fun same => Option.some.inj ?_, congrArg field⟩
  rw [← ofField?_field, ← ofField?_field, same]

theorem Category.ofField?_eq_none {field : String} (other : ∀ category : Category, field ≠ category.field) :
    ofField? field = none :=
  List.find?_eq_none.mpr fun category _ same => other category (of_decide_eq_true same).symm

/-- The values of a category as they go into a filter: numbers for the autonomous systems, and texts else. -/
def Selections.values (selections : Selections) (numbers : List Nat) : Category → List Json
  | .countries => selections.countries.map .text
  | .asns => numbers.map .ofNat
  | .services => selections.services.map .text

/-- The set of values on a field that is the one of a category with something selected. -/
def Selections.clause? (selections : Selections) (numbers : List Nat) (field : String) : Option Clause :=
  (Category.ofField? field).bind fun category =>
    if selections.get category = [] then none else some (.among (selections.values numbers category))

/-- The numbers that some texts show, if all of them show one. -/
theorem Asn.map_parse_of_mapM {asns : List String} {numbers : List Nat}
    (parsed : asns.mapM parse = .ok numbers) : asns.map parse = numbers.map .ok := by
  induction asns generalizing numbers with
  | nil =>
    cases parsed
    rfl
  | cons shown rest ih =>
    rw [List.mapM_cons] at parsed
    cases own : parse shown with
    | error failure =>
      rw [own] at parsed
      cases parsed
    | ok number =>
      cases others : rest.mapM parse with
      | error failure =>
        rw [own, others] at parsed
        cases parsed
      | ok found =>
        rw [own, others] at parsed
        cases parsed
        rw [List.map_cons, List.map_cons, own, ih others]

/-- There are as many values as there are selected texts, so none only where nothing is selected. -/
theorem Selections.values_eq_nil_iff {selections : Selections} {numbers : List Nat}
    (shown : selections.asns.map Asn.parse = numbers.map .ok) (category : Category) :
    selections.values numbers category = [] ↔ selections.get category = [] := by
  cases category with
  | countries => exact List.map_eq_nil_iff
  | services => exact List.map_eq_nil_iff
  | asns =>
    calc numbers.map Json.ofNat = []
        ↔ numbers.map Except.ok = ([] : List (Except Failure Nat)) := by simp only [List.map_eq_nil_iff]
      _ ↔ selections.asns = [] := by rw [← shown, List.map_eq_nil_iff]

namespace FilterBuilder

variable {builder filled : FilterBuilder} {selections : Selections}

/-- The selections are put in category by category, once the autonomous systems have turned out to be numbers. -/
theorem eq_of_selections (built : builder.selections selections = .ok filled) :
    ∃ numbers, selections.asns.map Asn.parse = numbers.map .ok ∧
      filled = Category.all.foldl
        (fun builder category => builder.select category (selections.values numbers category)) builder := by
  unfold FilterBuilder.selections at built
  cases parsed : selections.asns.mapM Asn.parse with
  | error failure =>
    rw [parsed] at built
    cases built
  | ok numbers =>
    rw [parsed] at built
    cases built
    exact ⟨numbers, Asn.map_parse_of_mapM parsed, rfl⟩

/-- Selections are never skipped. -/
theorem skipped_selections (built : builder.selections selections = .ok filled) :
    filled.skipped = builder.skipped := by
  obtain ⟨numbers, _, rfl⟩ := eq_of_selections built
  simp only [Category.all, List.foldl_cons, List.foldl_nil, skipped_select]

/-- **The selections put a set of values on the field of every category that is not empty.** -/
theorem get?_selections (built : builder.selections selections = .ok filled) :
    ∃ numbers, selections.asns.map Asn.parse = numbers.map .ok ∧
      ∀ field, filled.filter.get? field =
        (selections.clause? numbers field).or (builder.filter.get? field) := by
  obtain ⟨numbers, shown, rfl⟩ := eq_of_selections built
  refine ⟨numbers, shown, fun field => ?_⟩
  simp only [Category.all, List.foldl_cons, List.foldl_nil, get?_select, ne_eq,
    Selections.values_eq_nil_iff shown]
  unfold Selections.clause?
  by_cases named : ∃ category : Category, field = category.field
  · -- the fields differ, so only the category of this field counts
    obtain ⟨category, rfl⟩ := named
    rw [Category.ofField?_field, Option.bind_some]
    simp only [Category.field_inj]
    by_cases empty : selections.get category = [] <;> cases category <;> simp [empty]
  · have other : ∀ category : Category, field ≠ category.field := not_exists.mp named
    rw [Category.ofField?_eq_none other, Option.bind_none]
    simp only [other, false_and, if_false, Option.none_or]

end FilterBuilder

/-! ### The filter of a state -/

theorem Asn.malformed_of_parse {shown : String} {failure : Failure} (bad : parse shown = .error failure) :
    ∃ what, failure = .malformed what := by
  unfold parse at bad
  split at bad
  · cases bad
  · next fault _ =>
    cases bad
    cases fault <;> exact ⟨_, rfl⟩

namespace Navigation

/-- The filter of a state is that of its selections with the fragments merged on top. -/
theorem filter_eq {navigation : Navigation} {chosen : FilterBuilder}
    (built : ({} : FilterBuilder).selections navigation.selections = .ok chosen) :
    navigation.filter = .ok (chosen.fragments navigation.filters).filter := by
  rw [Navigation.filter, built]
  rfl

/-- A state has a filter only if the selections have one. -/
theorem selections_of_filter {navigation : Navigation} {filter : Filter}
    (has : navigation.filter = .ok filter) :
    ∃ chosen, ({} : FilterBuilder).selections navigation.selections = .ok chosen ∧
      filter = (chosen.fragments navigation.filters).filter := by
  cases built : ({} : FilterBuilder).selections navigation.selections with
  | error failure =>
    rw [Navigation.filter, built] at has
    cases has
  | ok chosen =>
    rw [filter_eq built] at has
    exact ⟨chosen, rfl, (Except.ok.inj has).symm⟩

theorem filter_eq_error_iff {navigation : Navigation} :
    (∃ failure, navigation.filter = .error failure) ↔
      ∃ shown ∈ navigation.selections.asns, ∃ failure, Asn.parse shown = .error failure := by
  rcases navigation.filter_cases with ⟨filter, has, valid⟩ | ⟨shown, member, failure, bad, failed⟩
  · refine ⟨fun ⟨failure, failed⟩ => ?_, fun ⟨shown, member, failure, bad⟩ => ?_⟩
    · rw [has] at failed
      cases failed
    · obtain ⟨number, parsed⟩ := valid shown member
      rw [parsed] at bad
      cases bad
  · exact iff_of_true ⟨failure, failed⟩ ⟨shown, member, failure, bad⟩

theorem malformed_of_filter {navigation : Navigation} {failure : Failure}
    (failed : navigation.filter = .error failure) : ∃ what, failure = .malformed what := by
  rcases navigation.filter_cases with ⟨filter, has, _⟩ | ⟨shown, _, own, bad, failed'⟩
  · rw [has] at failed
    cases failed
  · obtain rfl : own = failure := Except.error.inj (failed'.symm.trans failed)
    exact Asn.malformed_of_parse bad

/-- **Fragments that are no records can be taken away.** -/
theorem filter_of_records (navigation : Navigation) :
    { navigation with filters := navigation.filters.filter Filter.isRecordText }.filter =
      navigation.filter := by
  unfold Navigation.filter
  dsimp only
  cases ({} : FilterBuilder).selections navigation.selections with
  | error failure => rfl
  | ok chosen => exact congrArg Except.ok (FilterBuilder.filter_fragments_of_records rfl navigation.filters)

/-- **The filter of a state, field by field.** It is missing exactly if a selected autonomous system is no
number, and then as malformed. Else it has, on every field, the clause that the last fragment to state one
there states; if none does, the set of values of the category that selects on the field, in the order of the
selection, if anything is selected there; and else nothing. The fragments that are left out are those that
are no records, and taking them away makes no difference. -/
theorem filter_composed (navigation : Navigation) :
    ((∃ failure, navigation.filter = .error failure) ↔
        ∃ shown ∈ navigation.selections.asns, ∃ failure, Asn.parse shown = .error failure) ∧
      (∀ failure, navigation.filter = .error failure → ∃ what, failure = .malformed what) ∧
      (∀ filter, navigation.filter = .ok filter →
        ∃ numbers, navigation.selections.asns.map Asn.parse = numbers.map .ok ∧
          ∀ field, filter.get? field =
            (Filter.lastStated? field navigation.filters).or (navigation.selections.clause? numbers field)) ∧
      (∀ filter, navigation.filter = .ok filter →
        ∃ chosen, ({} : FilterBuilder).selections navigation.selections = .ok chosen ∧
          filter = (chosen.fragments navigation.filters).filter ∧
          (chosen.fragments navigation.filters).skipped =
            navigation.filters.countP fun fragment => !Filter.isRecordText fragment) ∧
      { navigation with filters := navigation.filters.filter Filter.isRecordText }.filter =
        navigation.filter := by
  refine ⟨filter_eq_error_iff, fun _ => malformed_of_filter, fun filter has => ?_, fun filter has => ?_,
    filter_of_records navigation⟩
  · obtain ⟨chosen, built, rfl⟩ := selections_of_filter has
    obtain ⟨numbers, shown, clauses⟩ := FilterBuilder.get?_selections built
    refine ⟨numbers, shown, fun field => ?_⟩
    have start : ({} : FilterBuilder).filter.get? field = none := rfl
    rw [FilterBuilder.get?_fragments, clauses, start, Option.or_none]
  · obtain ⟨chosen, built, rfl⟩ := selections_of_filter has
    refine ⟨chosen, built, rfl, ?_⟩
    rw [FilterBuilder.skipped_fragments, FilterBuilder.skipped_selections built, Nat.zero_add]

/-- Fragments that speak of a selected field, of one field twice, and two texts that are no records. -/
def overlaidNavigation : Navigation where
  selections := { countries := ["Germany"], asns := ["AS3320", " 0042"] }
  filters := ["\x7b\"asn.country\":\"France\",\"port\":80,\"port\":\x7b\"$gt\":1024\x7d\x7d",
    "not a fragment", "\x7b\"port\":[[22,443]]\x7d", "[1]"]

theorem filter_composed_overlaid :
    ∃ filter, overlaidNavigation.filter = .ok filter ∧
      ["asn.country", "asn.number", "port", "services.protocol"].map
          (fun field => (filter.get? field).map fun clause => clause.toJson.print) =
        [some "\"France\"", some "\x7b\"$in\":[3320,42]\x7d", some "\x7b\"$in\":[22,443]\x7d", none] ∧
      ∃ chosen, ({} : FilterBuilder).selections overlaidNavigation.selections = .ok chosen ∧
        filter = (chosen.fragments overlaidNavigation.filters).filter ∧
        (chosen.fragments overlaidNavigation.filters).skipped = 2 := by
  obtain ⟨_, _, composed, skipped, _⟩ := filter_composed overlaidNavigation
  have read : overlaidNavigation.selections.asns.map Asn.parse = [3320, 42].map .ok := by
    decide +kernel
  obtain ⟨filter, has⟩ : ∃ filter, overlaidNavigation.filter = .ok filter := by
    rcases overlaidNavigation.filter_cases with ⟨filter, has, _⟩ | ⟨shown, member, failure, bad, _⟩
    · exact ⟨filter, has⟩
    · have own : Except.error failure ∈ overlaidNavigation.selections.asns.map Asn.parse :=
        bad ▸ List.mem_map_of_mem member
      rw [read] at own
      simp at own
  obtain ⟨numbers, shown, clauses⟩ := composed filter has
  obtain rfl : numbers = [3320, 42] :=
    List.map_injective_iff.mpr (fun _ _ => Except.ok.inj) (shown.symm.trans read)
  obtain ⟨chosen, built, merged, count⟩ := skipped filter has
  refine ⟨filter, has, ?_, chosen, built, merged, ?_⟩
  · simp only [clauses]
    decide +kernel
  · rw [count]
    decide +kernel

end Navigation

end HostDashboard
