/-
**What is sent for a fragment.**

A fragment is read into a filter, and the filter is written as the text that is sent. A set of values has two
forms in which it is read, the record of a list and the list of just one list, and one in which it is written.
So the values of a fragment reach the API as they are, but for the lists of just one list: these are sent as
records, and the API takes them for sets (`Clause.toJson_ofValue`).

* `Filter.parse?_param_fragment`: what the API reads for any fragment;
* `forwarded_iff_no_nested` says that lists of just one list are all that is changed;
* `nested_list_sent_as_set`: a fragment that states such a list is sent as another one.
-/

import HostDashboard.Proofs.Filter.Sendable

namespace HostDashboard

/-- What is sent in the place of a value: of the list of just one list the record of a set, and anything else
as it is. -/
def Json.forwarded : Json → Json
  | .list [.list items] => .record [(Clause.amongName, .list items)]
  | value => value

theorem Json.forwarded_eq_self_iff {value : Json} :
    value.forwarded = value ↔ ∀ items, value ≠ .list [.list items] := by
  unfold forwarded
  split
  · next items => exact ⟨nofun, fun other => absurd rfl (other items)⟩
  · next other => exact ⟨fun _ => other, fun _ => rfl⟩

/-- **The clause that a value states is written as the value**, or as the record of a set for the list of a
list. -/
theorem Clause.toJson_ofValue (value : Json) : (ofValue value).toJson = value.forwarded := by
  unfold ofValue
  cases set : setItems? value with
  | some items => rcases eq_of_setItems? set with rfl | rfl <;> rfl
  | none =>
    refine (Json.forwarded_eq_self_iff.mpr fun items nested => ?_).symm
    subst nested
    cases set

/-- A fragment without selections makes the filter that it is read as. -/
theorem Navigation.filter_fragment {fragment : String} {filter : Filter}
    (read : Filter.ofFragment fragment = .ok filter) :
    ({ filters := [fragment] } : Navigation).filter = .ok filter := by
  have alone : Filter.empty.merge filter = filter :=
    congrArg Filter.mk filter.clauses.empty_merge
  show Except.ok (FilterBuilder.fragment {} fragment).filter = _
  rw [FilterBuilder.fragment, read]
  exact congrArg Except.ok alone

section Fragment

variable {fragment : String} {members : List (String × Json)}
  (written : Json.parse? fragment = some (.record members)) (exact : (Json.record members).Exact)

include written exact

/-- **What the API reads for a fragment**: the record that the fragment is the text of, with the members as
they are forwarded. -/
theorem Filter.parse?_param_fragment :
    ∃ filter, ({ filters := [fragment] } : Navigation).filter = .ok filter ∧
      Json.parse? filter.param =
        some (.record (members.map fun member => (member.1, member.2.forwarded))) := by
  obtain ⟨filter, read, entries⟩ := ofFragment_of_record written
  have sendable : filter.Sendable := by
    refine sendable_of_ofFragment (fun value has => ?_) read
    rw [written] at has
    cases has
    exact exact
  have value : filter.toJson =
      .record (members.map fun member => (member.1, member.2.forwarded)) := by
    rw [toJson, entries, List.map_map]
    simp only [Function.comp_def, Clause.toJson_ofValue]
  exact ⟨filter, Navigation.filter_fragment read, by rw [sendable.parse?_param, value]⟩

/-- **A fragment is forwarded unchanged, but for lists of just one list.** A fragment is the text of a record
whose numbers are whole ones of 64 bits. Without any selections it makes a filter, and the text in which this
filter is sent is read as the same record, where every member that is the list of just one list has become
the record of a set. So it is read as the fragment itself exactly if there is no such member. -/
theorem Filter.forwarded_iff_no_nested :
    ∃ filter, ({ filters := [fragment] } : Navigation).filter = .ok filter ∧
      Json.parse? filter.param =
        some (.record (members.map fun member => (member.1, member.2.forwarded))) ∧
      (Json.parse? filter.param = Json.parse? fragment ↔
        ∀ member ∈ members, ∀ items, member.2 ≠ .list [.list items]) := by
  obtain ⟨filter, built, sent⟩ := parse?_param_fragment written exact
  refine ⟨filter, built, sent, ?_⟩
  rw [sent, written, Option.some.injEq, Json.record.injEq]
  calc members.map (fun member => (member.1, member.2.forwarded)) = members
      ↔ members.map (fun member => (member.1, member.2.forwarded)) = members.map id := by
        rw [List.map_id]
    _ ↔ ∀ member ∈ members, (member.1, member.2.forwarded) = member := List.map_inj_left
    _ ↔ ∀ member ∈ members, ∀ items, member.2 ≠ .list [.list items] := by
        refine forall₂_congr fun member _ => ?_
        rw [← Json.forwarded_eq_self_iff, Prod.ext_iff]
        exact and_iff_right rfl

end Fragment

/-- An operator, a set of values as a record, and the list of two lists. -/
def operatorMembers : List (String × Json) :=
  [("port", .record [("$gt", .ofNat 1024)]), ("protocol", .record [("$in", .list [.text "ssh"])]),
    ("tags", .list [.list [.null], .list []])]

def operatorFragment : String :=
  "\x7b\"port\":\x7b\"$gt\":1024\x7d,\"protocol\":\x7b\"$in\":[\"ssh\"]\x7d,\"tags\":[[null],[]]\x7d"

theorem Filter.forwarded_iff_no_nested_operators :
    Json.parse? operatorFragment = some (.record operatorMembers) ∧
      (Json.record operatorMembers).Exact ∧
      ∃ filter, ({ filters := [operatorFragment] } : Navigation).filter = .ok filter ∧
        Json.parse? filter.param = Json.parse? operatorFragment := by
  have exact : (Json.record operatorMembers).Exact := by decide
  have written : Json.parse? operatorFragment = some (.record operatorMembers) :=
    Json.parse?_of_eq_print (by decide +kernel) rfl (by decide) exact
  obtain ⟨filter, built, _, unchanged⟩ := forwarded_iff_no_nested written exact
  refine ⟨written, exact, filter, built, unchanged.mpr ?_⟩
  simp [operatorMembers]

/-- **The list of a list is sent as a set**: the fragment asks for hosts whose `a` is `[["x"]]`, and the API is
asked for those whose `a` is `"x"`. -/
theorem nested_list_sent_as_set :
    let fragment := "\x7b\"a\":[[\"x\"]]\x7d"
    Json.parse? fragment = some (.record [("a", .list [.list [.text "x"]])]) ∧
      (Json.record [("a", .list [.list [.text "x"]])]).Exact ∧
      ∃ filter, ({ filters := [fragment] } : Navigation).filter = .ok filter ∧
        Json.parse? filter.param = some (.record [("a", .record [("$in", .list [.text "x"])])]) ∧
        Json.parse? filter.param ≠ Json.parse? fragment := by
  intro fragment
  have exact : (Json.record [("a", .list [.list [.text "x"]])]).Exact := by decide
  have written : Json.parse? fragment = some (.record [("a", .list [.list [.text "x"]])]) :=
    Json.parse?_of_eq_print (by decide +kernel) rfl (by decide) exact
  obtain ⟨filter, built, sent⟩ := Filter.parse?_param_fragment written exact
  refine ⟨written, exact, filter, built, sent, ?_⟩
  rw [sent, written]
  simp [Json.forwarded]

end HostDashboard
