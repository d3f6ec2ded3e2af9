/-
**Filters that are read as they were written.**

A clause that states a value is written as this value alone, and the reader takes it for a set of values
if it looks like one. So not every clause survives; but one that a value states does
(`Clause.sendable_ofValue`): what looks like a set has been taken for one already.

A filter of such clauses survives as a whole: its text is read as its own value
(`Filter.Sendable.parse?_param`), and as the filter (`Filter.Sendable.ofFragment_param`). A filter that was read
from a fragment is such a one (`Filter.sendable_of_ofFragment`).
-/

import HostDashboard.Proofs.Filter.Fragment

namespace HostDashboard

/-! ### Clauses -/

namespace Clause

/-- A clause that is read as it was written, as part of a filter that is sent. -/
structure Sendable (clause : Clause) : Prop where
  sorted : clause.toJson.Sorted
  exact : clause.toJson.Exact
  shallow : clause.toJson.toDocument.depth < Document.greatestDepth
  read : ofDocument? clause.toJson.toDocument = some clause

theorem sendable_among {items : List Json} (sorted : ∀ item ∈ items, item.Sorted)
    (exact : ∀ item ∈ items, item.Exact)
    (shallow : Document.itemsDepth (Json.itemsToDocuments items) + 2 < Document.greatestDepth) :
    (among items).Sendable := by
  have member : ∀ member ∈ [(amongName, Json.list items)], member = (amongName, .list items) :=
    fun _ => List.mem_singleton.mp
  constructor
  · refine .record (List.pairwise_singleton _ _) fun each inside => ?_
    rw [member each inside]
    exact .list sorted
  · refine Json.exact_record_iff.mpr fun each inside => ?_
    rw [member each inside]
    exact Json.exact_list_iff.mpr exact
  · show max (Document.itemsDepth (Json.itemsToDocuments items) + 1) 0 + 1 < _
    omega
  · show (Document.itemValues? (Json.itemsToDocuments items)).map among = _
    rw [Document.itemValues?_of_sorted sorted, Option.map_some]

theorem Sendable.ofValue_toJson {clause : Clause} (sendable : clause.Sendable) :
    ofValue clause.toJson = clause :=
  Option.some.inj ((ofDocument?_toDocument sendable.sorted).symm.trans sendable.read)

/-- **A clause that a value states is sendable**, whichever kind the value is taken for. -/
theorem sendable_ofValue {value : Json} (sorted : value.Sorted) (exact : value.Exact)
    (shallow : value.toDocument.depth < Document.greatestDepth) : (ofValue value).Sendable := by
  have read := ofDocument?_toDocument sorted
  unfold ofValue at read ⊢
  cases set : setItems? value with
  | none =>
    rw [set] at read
    exact ⟨sorted, exact, shallow, read⟩
  | some items =>
    -- of either form only the items count; they lie inside two containers
    have inner : (Json.list items).Sorted ∧ (Json.list items).Exact ∧
        (Json.list items).toDocument.depth + 1 < Document.greatestDepth := by
      rcases eq_of_setItems? set with rfl | rfl
      · cases sorted with
        | record _ each =>
          refine ⟨each _ List.mem_cons_self, Json.exact_record_iff.mp exact _ List.mem_cons_self, ?_⟩
          exact Nat.lt_of_le_of_lt (Nat.succ_le_succ (Nat.le_max_left _ _)) shallow
      · cases sorted with
        | list each =>
          refine ⟨each _ List.mem_cons_self, Json.exact_list_iff.mp exact _ List.mem_cons_self, ?_⟩
          exact Nat.lt_of_le_of_lt (Nat.succ_le_succ (Nat.le_max_left _ _)) shallow
    obtain ⟨listSorted, listExact, listShallow⟩ := inner
    have sorted : ∀ item ∈ items, item.Sorted := by
      cases listSorted with
      | list each => exact each
    exact sendable_among sorted (Json.exact_list_iff.mp listExact) listShallow

/-- No text is read as the clause that states the list of a list: it is taken for a set. -/
example : ofDocument? (equals (.list [.list [.null]])).toJson.toDocument = some (.among [.null]) := rfl

end Clause

/-! ### Filters -/

namespace Filter

/-- Every clause is sendable. -/
def Sendable (filter : Filter) : Prop := ∀ entry ∈ filter.clauses.entries, entry.2.Sendable

theorem sendable_empty : empty.Sendable := fun _ member => nomatch member

theorem Sendable.insert {filter : Filter} (sendable : filter.Sendable) (field : String)
    {clause : Clause} (new : clause.Sendable) : (filter.insert field clause).Sendable := by
  intro entry member
  rcases Dictionary.eq_or_mem_of_mem_place member with rfl | old
  · exact new
  · exact sendable entry old

theorem Sendable.merge {first second : Filter} (one : first.Sendable) (other : second.Sendable) :
    (first.merge second).Sendable := by
  intro entry member
  rcases Dictionary.mem_merge member with old | new
  · exact one entry old
  · exact other entry new

/-- **The text of a sendable filter is read as the value of the filter.** -/
theorem Sendable.parse?_param {filter : Filter} (sendable : filter.Sendable) :
    Json.parse? filter.param = some filter.toJson := by
  have sorted : filter.toJson.Sorted := by
    refine .record (List.pairwise_map.mpr filter.clauses.sorted) fun member inside => ?_
    obtain ⟨entry, listed, rfl⟩ := List.mem_map.mp inside
    exact (sendable entry listed).sorted
  have exact : filter.toJson.Exact := by
    refine Json.exact_record_iff.mpr fun member inside => ?_
    obtain ⟨entry, listed, rfl⟩ := List.mem_map.mp inside
    exact (sendable entry listed).exact
  have shallow : filter.toJson.toDocument.depth ≤ Document.greatestDepth := by
    refine Nat.succ_le_of_lt (Nat.lt_of_le_of_lt ?_ (by decide : 126 < Document.greatestDepth))
    refine Document.membersDepth_le_iff.mpr fun member inside => ?_
    obtain ⟨entry, listed, rfl⟩ := List.mem_map.mp inside
    exact Nat.le_of_lt_succ (sendable entry listed).shallow
  exact Json.parse?_print sorted shallow exact

/-- **A sendable filter is read as it was written.** -/
theorem Sendable.ofFragment_param {filter : Filter} (sendable : filter.Sendable) :
    ofFragment filter.param = .ok filter := by
  obtain ⟨own, read, entries⟩ := ofFragment_of_record sendable.parse?_param
  have same : own.clauses.entries = filter.clauses.entries := by
    rw [entries, List.map_map]
    have each : ∀ entry ∈ filter.clauses.entries,
        (entry.1, Clause.ofValue entry.2.toJson) = entry := fun entry listed =>
      Prod.ext rfl (sendable entry listed).ofValue_toJson
    exact (List.map_congr_left each).trans (List.map_id _)
  have equal : own = filter := congrArg Filter.mk (Dictionary.eq_of_entries same)
  rwa [equal] at read

/-- **A filter that was read from a fragment is sendable.** -/
theorem sendable_of_ofFragment {fragment : String} {filter : Filter}
    (exact : ∀ value ∈ Json.parse? fragment, value.Exact)
    (read : ofFragment fragment = .ok filter) : filter.Sendable := by
  obtain ⟨members, written, entries⟩ := of_ofFragment read
  have membersExact := Json.exact_record_iff.mp (exact _ written)
  obtain ⟨sorted, shallow⟩ := Json.parse?_sorted_shallow written
  have membersShallow := Document.membersDepth_le_iff.mp (Nat.le_of_succ_le_succ shallow)
  intro entry kept
  rw [entries] at kept
  obtain ⟨member, listed, rfl⟩ := List.mem_map.mp kept
  cases sorted with
  | record _ each =>
    exact Clause.sendable_ofValue (each member listed) (membersExact member listed)
      (Nat.lt_succ_of_le (membersShallow member listed))

end Filter

end HostDashboard
