/-
**From the search box into the filter.**

What is typed becomes a fragment, a record with one member, which is kept as a text. To build the filter the
text is read again and merged over the sets of values of the selections. On the way the member could be lost
or taken for another kind of clause; it is not:

* `FieldQuery.ofFragment_fragment`: the fragment is read as the one clause that was typed. A text is never
  written as a set of values is;
* `FilterBuilder.fragment_query`: merging it replaces the clause on its field and no other, and skips nothing;
* `Session.submitQuery_filter` says this of a session, with what submitting leaves alone.
-/

import HostDashboard.Proofs.Filter.Composed
import HostDashboard.Proofs.SearchBox.Grammar
import HostDashboard.Session.Basic

namespace HostDashboard

/-! ### One clause -/

theorem Clause.sendable_text (s : String) : (equals (.text s)).Sendable where
  sorted := .text s
  exact := nofun
  shallow := by
    show 0 < Document.greatestDepth
    decide
  read := rfl

/-- **A fragment is read as the clause that was typed.** -/
theorem FieldQuery.ofFragment_fragment (query : FieldQuery) :
    Filter.ofFragment query.fragment = .ok (Filter.empty.insertEquals query.field (.text query.value)) := by
  have written : (Filter.empty.insertEquals query.field (.text query.value)).toJson =
      .record [(query.field, .text query.value)] := rfl
  rw [fragment, ← written]
  exact Filter.Sendable.ofFragment_param
    (Filter.sendable_empty.insert query.field (Clause.sendable_text query.value))

namespace FilterBuilder

/-- **A typed clause takes the place of the one on its field.** -/
theorem fragment_query (builder : FilterBuilder) (query : FieldQuery) :
    builder.fragment query.fragment =
      { builder with filter := builder.filter.insertEquals query.field (.text query.value) } := by
  rw [fragment, query.ofFragment_fragment]
  rfl

theorem fragments_toList (builder : FilterBuilder) (query : Option FieldQuery) :
    builder.fragments (query.map FieldQuery.fragment).toList =
      match query with
      | some query => { builder with
          filter := builder.filter.insertEquals query.field (.text query.value) }
      | none => builder := by
  cases query with
  | none => rfl
  | some query =>
    rw [Option.map_some, Option.toList_some, fragments, List.foldl_cons, List.foldl_nil, fragment_query]

end FilterBuilder

/-! ### The filter of a session -/

namespace Session

section Submitted

variable (session : Session) (typed : String)

/-- What submitting sets: the fragment of the clause, if the text is one, the text shown in the search box, and
page one. -/
theorem submitQuery_eq : session.submitQuery typed =
    { session with
      navigation := { session.navigation with
        filters := ((FieldQuery.parse? typed).map FieldQuery.fragment).toList
        query := if (Text.trimmed typed).isEmpty then none else some (Text.trimmed typed) }
      pager := session.pager.reset } := by
  rw [← FieldQuery.parse?_trimmed typed]
  dsimp only [submitQuery]

/-- The search box shows what was typed, without the blanks at its ends. -/
theorem query_submitQuery :
    (session.submitQuery typed).navigation.query.getD "" = Text.trimmed typed := by
  rw [submitQuery_eq]
  dsimp only
  split
  · next empty => exact (String.isEmpty_iff.mp empty).symm
  · rfl

/-- **Submitting what the search box shows changes nothing.** -/
theorem navigation_resubmit :
    ((session.submitQuery typed).submitQuery (Text.trimmed typed)).navigation =
      (session.submitQuery typed).navigation := by
  simp only [submitQuery_eq, FieldQuery.parse?_trimmed, Text.trimmed_trimmed]

/-- **The filter after a text was submitted**, over any filter of the selections. -/
theorem filter_submitQuery {chosen : FilterBuilder}
    (built : ({} : FilterBuilder).selections session.navigation.selections = .ok chosen) :
    (chosen.fragments (session.submitQuery typed).navigation.filters).skipped = 0 ∧
      (session.submitQuery typed).navigation.filter = .ok (match FieldQuery.parse? typed with
        | some query => chosen.filter.insertEquals query.field (.text query.value)
        | none => chosen.filter) := by
  have unskipped : chosen.skipped = 0 := FilterBuilder.skipped_selections built
  have filter := @Navigation.filter_eq (session.submitQuery typed).navigation chosen
  rw [submitQuery_eq] at filter ⊢
  rw [filter built]
  dsimp only
  rw [FilterBuilder.fragments_toList]
  cases FieldQuery.parse? typed <;> exact ⟨unskipped, rfl⟩

end Submitted

/-- **A typed clause reaches the filter as it was typed.** Submitting a text leaves the selections, the
sidebar, the data and what is loading as they were, and goes back to page one. If the selected autonomous
systems are numbers, the new state has a filter, and no fragment is skipped on the way to it. If the text is
a clause, the filter states its value on its field, and has the clause of the selections on every other field;
if it is none, the filter is that of the selections. Submitting what the search box shows then changes
nothing. -/
theorem submitQuery_filter (session : Session) (typed : String) :
    let next := session.submitQuery typed
    (next.navigation.selections = session.navigation.selections ∧ next.panel = session.panel ∧
      next.data = session.data ∧ next.status = session.status ∧
      next.generation = session.generation ∧ next.inFlight = session.inFlight ∧
      next.pager.current = 1) ∧
    ((∀ shown ∈ session.navigation.selections.asns, ∃ number, Asn.parse shown = .ok number) →
      ∃ chosen, ({} : FilterBuilder).selections session.navigation.selections = .ok chosen ∧
        (chosen.fragments next.navigation.filters).skipped = 0 ∧
        ∃ filter, next.navigation.filter = .ok filter ∧
          (∀ query, FieldQuery.parse? typed = some query →
            filter.get? query.field = some (.equals (.text query.value)) ∧
              ∀ field, field ≠ query.field → filter.get? field = chosen.filter.get? field) ∧
          (FieldQuery.parse? typed = none → filter = chosen.filter)) ∧
    (next.submitQuery (next.navigation.query.getD "")).navigation = next.navigation := by
  dsimp only
  refine ⟨?_, fun valid => ?_, ?_⟩
  · rw [submitQuery_eq]
    exact ⟨rfl, rfl, rfl, rfl, rfl, rfl, rfl⟩
  · obtain ⟨chosen, built, _⟩ :=
      @FilterBuilder.selections_sendable {} Filter.sendable_empty _ valid
    obtain ⟨unskipped, filter⟩ := session.filter_submitQuery typed built
    refine ⟨chosen, built, unskipped, _, filter, ?_⟩
    cases FieldQuery.parse? typed with
    | none => exact ⟨nofun, fun _ => rfl⟩
    | some query =>
      refine ⟨?_, nofun⟩
      rintro _ ⟨rfl⟩
      dsimp only
      refine ⟨?_, fun field differs => ?_⟩
      · rw [Filter.insertEquals, Filter.get?_insert, if_pos rfl]
      · rw [Filter.insertEquals, Filter.get?_insert, if_neg differs]
  · rw [query_submitQuery]
    exact navigation_resubmit session typed

/-- A country and an autonomous system are selected. -/
def selectedSession : Session := openAt { selections := { countries := ["Germany"], asns := ["AS3320"] } }

/-- A country with a quotation mark, a colon and a backslash in its name, and blanks around. -/
def escapedText : String := "\t asn.country :  \"Fr: an\\ce \n"

theorem submitQuery_filter_escaped :
    (∀ shown ∈ selectedSession.navigation.selections.asns, ∃ number, Asn.parse shown = .ok number) ∧
      FieldQuery.parse? escapedText = some ⟨"asn.country", "\"Fr: an\\ce"⟩ ∧
      ∃ chosen,
        ({} : FilterBuilder).selections selectedSession.navigation.selections = .ok chosen ∧
        ∃ filter, (selectedSession.submitQuery escapedText).navigation.filter = .ok filter ∧
          filter.get? "asn.country" = some (.equals (.text "\"Fr: an\\ce")) ∧
          filter.get? "asn.number" = chosen.filter.get? "asn.number" := by
  have valid : ∀ shown ∈ selectedSession.navigation.selections.asns,
      ∃ number, Asn.parse shown = .ok number := by
    intro shown member
    rw [List.mem_singleton.mp member]
    exact ⟨3320, by decide +kernel⟩
  have parsed : FieldQuery.parse? escapedText = some ⟨"asn.country", "\"Fr: an\\ce"⟩ := by
    decide +kernel
  obtain ⟨_, reached, _⟩ := submitQuery_filter selectedSession escapedText
  obtain ⟨chosen, built, _, filter, has, clauses, _⟩ := reached valid
  obtain ⟨own, others⟩ := clauses _ parsed
  exact ⟨valid, parsed, chosen, built, filter, has, own, others "asn.number" (by decide)⟩

end Session

end HostDashboard
