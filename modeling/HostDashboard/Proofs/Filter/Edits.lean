/-
**Filters as histories of edits.**

A filter grows by edits: a clause is put on a field, or another filter is merged. What it has on a field is what
the last edit to speak of this field says there (`Filter.get?_ofEdits`): one edit has its way over all before it
(`Edit.get?_apply`), and the rest is an induction from the last edit on.

Nothing else of the history is left in the filter, as a filter is known by its clauses (`Filter.eq_of_get?`). So
histories that end with the same clauses end with the same text (`edits_canonical`). Clauses may be compared
without a look at the order of members (`Clause.Same`): values that are read have theirs sorted.
-/

import HostDashboard.Proofs.Filter.Composed

namespace HostDashboard

/-! ### The same clauses -/

namespace Clause

/-- The same kind of clause with the same values. -/
inductive Same : Clause → Clause → Prop
  | among {values others : List Json} (each : List.Forall₂ Json.Same values others) :
      Same (.among values) (.among others)
  | equals {value other : Json} (same : Json.Same value other) : Same (.equals value) (.equals other)

theorem sorted_of_among {values : List Json} (sorted : (among values).toJson.Sorted) :
    ∀ value ∈ values, value.Sorted := by
  cases sorted with
  | record _ each =>
    cases each _ List.mem_cons_self with
    | list each => exact each

/-- **Clauses of sorted values that are the same are equal.** -/
theorem Same.eq {first second : Clause} (sorted : first.toJson.Sorted) (other : second.toJson.Sorted)
    (same : Same first second) : first = second := by
  cases same with
  | among each =>
    refine congrArg Clause.among (Json.eq_of_forall₂ (fun value member _ member' => ?_) each)
    exact Json.Same.eq (sorted_of_among sorted value member) (sorted_of_among other _ member')
  | equals same => exact congrArg Clause.equals (Json.Same.eq sorted other same)

theorem same_of_sorted {clause : Clause} (sorted : clause.toJson.Sorted) : Same clause clause := by
  cases clause with
  | among values =>
    exact .among (List.forall₂_same.mpr fun value member => (sorted_of_among sorted value member).same)
  | equals value => exact .equals (Json.Sorted.same sorted)

end Clause

namespace Filter

/-! ### What filters hold -/

theorem eq_of_get? {first second : Filter} (same : ∀ field, first.get? field = second.get? field) :
    first = second :=
  congrArg mk (Dictionary.eq_of_get? same)

theorem mem_fields_iff {filter : Filter} {field : String} :
    field ∈ filter.fields ↔ ∃ clause, filter.get? field = some clause :=
  Dictionary.mem_keys_iff

/-- The fields stand in the order of their octets. -/
theorem fields_increasing (filter : Filter) :
    filter.fields.Pairwise fun first second =>
      Text.Utf8.encode first.toList < Text.Utf8.encode second.toList :=
  filter.clauses.keys_increasing.imp fun below => Text.Utf8.encode_lt_encode below

theorem merge_assoc (first second third : Filter) :
    (first.merge second).merge third = first.merge (second.merge third) :=
  congrArg mk (Dictionary.merge_assoc _ _ _)

theorem empty_merge (filter : Filter) : empty.merge filter = filter :=
  congrArg mk filter.clauses.empty_merge

theorem merge_empty (filter : Filter) : filter.merge empty = filter :=
  congrArg mk filter.clauses.merge_empty

/-! ### Edits -/

/-- One of the ways in which a filter is changed. -/
inductive Edit where
  | insert (field : String) (clause : Clause)
  | insertAmong (field : String) (values : List Json)
  | insertEquals (field : String) (value : Json)
  | merge (other : Filter)

namespace Edit

/-- The filter after an edit. -/
def apply (filter : Filter) : Edit → Filter
  | insert field clause => filter.insert field clause
  | insertAmong field values => filter.insertAmong field values
  | insertEquals field value => filter.insertEquals field value
  | merge other => filter.merge other

/-- The clause that an edit puts on a field, if it speaks of this field. A merge speaks of all fields of the
other filter. -/
def clause? (field : String) : Edit → Option Clause
  | insert name clause => if field = name then some clause else none
  | insertAmong name values => if field = name then some (.among values) else none
  | insertEquals name value => if field = name then some (.equals value) else none
  | merge other => other.get? field

/-- The values of all clauses are sorted, as those are that are read. -/
def Sorted (edit : Edit) : Prop := ∀ field, ∀ clause ∈ edit.clause? field, clause.toJson.Sorted

/-- **An edit has its way on the fields that it speaks of**, and leaves the others alone. -/
theorem get?_apply (filter : Filter) (edit : Edit) (field : String) :
    (edit.apply filter).get? field = (edit.clause? field).or (filter.get? field) := by
  have inserted (name : String) (clause : Clause) : (filter.insert name clause).get? field =
      (if field = name then some clause else none).or (filter.get? field) := by
    rw [get?_insert]
    split <;> rfl
  cases edit with
  | insert name clause => exact inserted name clause
  | insertAmong name values => exact inserted name _
  | insertEquals name value => exact inserted name _
  | merge other => exact filter.get?_merge other field

end Edit

/-- The filter after some edits, from the empty one on. -/
def ofEdits (edits : List Edit) : Filter := edits.foldl Edit.apply empty

/-- **The last edit to speak of a field has its way there.** -/
theorem get?_ofEdits (edits : List Edit) (field : String) :
    (ofEdits edits).get? field = (edits.filterMap (Edit.clause? field)).getLast? := by
  induction edits using List.reverseRecOn with
  | nil => rfl
  | append_singleton before last ih =>
    have applied : ofEdits (before ++ [last]) = last.apply (ofEdits before) := List.foldl_concat ..
    rw [applied, Edit.get?_apply, ih, List.filterMap_append, List.getLast?_append]
    cases found : last.clause? field <;> simp [found]

/-- The fields with a clause are those that some edit speaks of. -/
theorem mem_fields_ofEdits_iff {edits : List Edit} {field : String} :
    field ∈ (ofEdits edits).fields ↔ ∃ edit ∈ edits, (edit.clause? field).isSome := by
  rw [mem_fields_iff, get?_ofEdits, ← Option.isSome_iff_exists, List.getLast?_isSome, Ne,
    List.filterMap_eq_nil_iff]
  simp only [not_forall, exists_prop, Option.isSome_iff_ne_none, Ne]

theorem sorted_of_get?_ofEdits {edits : List Edit} (sorted : ∀ edit ∈ edits, edit.Sorted) (field : String) :
    ∀ clause ∈ (ofEdits edits).get? field, clause.toJson.Sorted := by
  intro clause found
  rw [get?_ofEdits] at found
  obtain ⟨edit, member, put⟩ := List.mem_filterMap.mp (List.mem_of_getLast? found)
  exact sorted edit member field clause put

theorem Edit.sorted_insert {field : String} {clause : Clause} (sorted : clause.toJson.Sorted) :
    (Edit.insert field clause).Sorted := by
  intro other put member
  have same : (if other = field then some clause else none) = some put := member
  rw [Option.ite_none_right_eq_some] at same
  rw [← Option.some.inj same.2]
  exact sorted

theorem Edit.sorted_merge {edits : List Edit} (sorted : ∀ edit ∈ edits, edit.Sorted) :
    (Edit.merge (ofEdits edits)).Sorted := sorted_of_get?_ofEdits sorted

/-- Histories of sorted values that leave the same clauses leave equal ones. -/
theorem get?_ofEdits_of_same {first second : List Edit} (sorted : ∀ edit ∈ first ++ second, edit.Sorted)
    {field : String}
    (same : Option.Rel Clause.Same ((ofEdits first).get? field) ((ofEdits second).get? field)) :
    (ofEdits first).get? field = (ofEdits second).get? field := by
  obtain ⟨sorted, sorted'⟩ := List.forall_mem_append.mp sorted
  refine Json.eq_of_rel (fun clause found other found' => ?_) same
  exact Clause.Same.eq (sorted_of_get?_ofEdits sorted field clause found)
    (sorted_of_get?_ofEdits sorted' field other found')

/-- **A filter is what its history leaves on every field, and no more.**

* After any edits a field has the clause of the last edit to speak of it. The fields with a clause are listed
  once each, in the order of their octets, and counted.
* Merging is associative, and the empty filter makes no difference to it.
* Histories that leave equal clauses on every field end with the same filter, so with the same text, and with
  the same filter in a request for hosts as in one for counts.
* Where all values are sorted, clauses are equal if they are the same but for the order of members, at any
  depth. -/
theorem edits_canonical :
    (∀ edits : List Edit,
      (∀ field, (ofEdits edits).get? field = (edits.filterMap (Edit.clause? field)).getLast?) ∧
      ((ofEdits edits).fields.Pairwise fun first second =>
        Text.Utf8.encode first.toList < Text.Utf8.encode second.toList) ∧
      (∀ field, field ∈ (ofEdits edits).fields ↔ ∃ edit ∈ edits, (edit.clause? field).isSome) ∧
      (ofEdits edits).size = (ofEdits edits).fields.length) ∧
    (∀ first second third : Filter,
      (first.merge second).merge third = first.merge (second.merge third)) ∧
    (∀ filter : Filter, empty.merge filter = filter ∧ filter.merge empty = filter) ∧
    (∀ first second : List Edit,
      (∀ field, (ofEdits first).get? field = (ofEdits second).get? field) →
        (ofEdits first).param = (ofEdits second).param ∧
        ∀ (limit : Nat) (pageToken : Option String),
          (ApiRequest.search (ofEdits first) limit pageToken).parameters.lookup "filter".toList =
            (ApiRequest.counts (ofEdits second)).parameters.lookup "filter".toList) ∧
    ∀ first second : List Edit, (∀ edit ∈ first ++ second, edit.Sorted) →
      ∀ field, Option.Rel Clause.Same ((ofEdits first).get? field) ((ofEdits second).get? field) →
        (ofEdits first).get? field = (ofEdits second).get? field := by
  refine ⟨fun edits => ⟨get?_ofEdits edits, fields_increasing _, fun field => mem_fields_ofEdits_iff,
    Dictionary.size_eq_length_keys _⟩, merge_assoc, fun filter => ⟨empty_merge filter, merge_empty filter⟩,
    fun first second same => ?_, fun first second sorted field => get?_ofEdits_of_same sorted⟩
  rw [eq_of_get? same]
  exact ⟨rfl, fun _ _ => rfl⟩

/-- A range of ports, and a country in place of another. -/
def ranged : List Edit :=
  [.insertEquals "port" (.record [("$gt", .ofNat 1024), ("$lt", .ofNat 4096)]),
    .insertAmong "asn.country" [.text "Germany", .text "Spain"],
    .merge (ofEdits [.insertEquals "asn.country" (.text "France")])]

/-- The same in another order, and the range with its bounds the other way round. -/
def rearranged : List Edit :=
  [.insert "asn.country" (.equals (.text "France")),
    .insertEquals "port" (Json.ofMembers [("$lt", .ofNat 4096), ("$gt", .ofNat 1024)])]

theorem edits_canonical_rearranged :
    (∀ edit ∈ ranged ++ rearranged, edit.Sorted) ∧
      Option.Rel Clause.Same ((ofEdits ranged).get? "port") ((ofEdits rearranged).get? "port") ∧
      (ofEdits ranged).get? "port" = (ofEdits rearranged).get? "port" ∧
      (∀ field, (ofEdits ranged).get? field = (ofEdits rearranged).get? field) ∧
      (ofEdits ranged).param = (ofEdits rearranged).param := by
  obtain ⟨_, _, _, canonical, alike⟩ := edits_canonical
  have range : Json.ofMembers [("$lt", .ofNat 4096), ("$gt", .ofNat 1024)] =
      .record [("$gt", .ofNat 1024), ("$lt", .ofNat 4096)] := by rfl
  have same : ∀ field, (ofEdits ranged).get? field = (ofEdits rearranged).get? field := by
    intro field
    rw [get?_ofEdits, get?_ofEdits, ranged, rearranged, range]
    by_cases port : field = "port"
    · subst port
      rfl
    · by_cases country : field = "asn.country"
      · subst country
        rfl
      · simp [Edit.clause?, get?_ofEdits, port, country]
  have own {clause : Clause} (read : clause.toJson.toDocument.value? = some clause.toJson) :
      clause.toJson.Sorted := (Document.sorted_shallow_of_value? read).1
  have sorted : ∀ edit ∈ ranged ++ rearranged, edit.Sorted := by
    have france : (Edit.insertEquals "asn.country" (.text "France")).Sorted := Edit.sorted_insert (own rfl)
    have port : (Edit.insertEquals "port" (.record [("$gt", .ofNat 1024), ("$lt", .ofNat 4096)])).Sorted :=
      Edit.sorted_insert (own rfl)
    have among : (Edit.insertAmong "asn.country" [.text "Germany", .text "Spain"]).Sorted :=
      Edit.sorted_insert (own rfl)
    rw [ranged, rearranged, range]
    simp only [List.cons_append, List.nil_append, List.forall_mem_cons]
    exact ⟨port, among, Edit.sorted_merge (by simpa using france), france, port, nofun⟩
  have related : Option.Rel Clause.Same ((ofEdits ranged).get? "port") ((ofEdits rearranged).get? "port") := by
    rw [← same]
    cases found : (ofEdits ranged).get? "port" with
    | none => exact .none
    | some clause =>
      refine .some (Clause.same_of_sorted (sorted_of_get?_ofEdits (fun edit member => ?_) "port" clause found))
      exact sorted edit (List.mem_append_left _ member)
  exact ⟨sorted, related, alike _ _ sorted "port" related, same, (canonical _ _ same).1⟩

end Filter

end HostDashboard
