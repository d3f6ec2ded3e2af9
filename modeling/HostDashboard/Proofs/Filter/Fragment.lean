/-
**What a fragment says.**

A fragment is a text. If the text is that of a record, every member states a clause on the field that it
names: a set of values if it is written as one, and else the value itself (`Clause.ofValue`). All values state
a clause (`Clause.ofDocument?_toDocument`), so no record is refused.

* `Filter.ofFragment_of_record`: a fragment that is the text of a record is read, member by member;
* `Filter.ofFragment_of_other`: no other text is read;
* `Filter.get?_of_ofFragment`: what a fragment states on a field (`Filter.stated?`) is what its filter has
  there.
-/

import HostDashboard.Filter.Builder
import HostDashboard.Proofs.Json.Sorted

namespace HostDashboard

/-! ### Records in documents -/

/-- The record of some named things is read as a dictionary of what each of them means. -/
theorem Document.asDictionary?_record {α γ : Type} {value? : Document → Option α}
    (document : γ → Document) (meaning : γ → α) {named : List (String × γ)}
    (read : ∀ pair ∈ named, value? (document pair.2) = some (meaning pair.2)) :
    asDictionary? value? (.record (named.map fun pair => (some pair.1, document pair.2))) =
      some (Dictionary.ofList (named.map fun pair => (pair.1, meaning pair.2))) := by
  unfold asDictionary?
  dsimp only
  rw [Option.map_eq_some_iff]
  refine ⟨_, ?_, rfl⟩
  induction named with
  | nil => rfl
  | cons pair rest ih =>
    have later := ih fun other member => read other (List.mem_cons_of_mem _ member)
    rw [List.map_cons, List.mapM_cons, later]
    dsimp only
    rw [read pair List.mem_cons_self]
    rfl

/-! ### Clauses -/

namespace Clause

/-- The values of a set, if a value is written as one: as the record of a list under the name of sets, or as
the list of just one list. -/
def setItems? : Json → Option (List Json)
  | .record [(name, .list items)] => if name = amongName then some items else none
  | .list [.list items] => some items
  | _ => none

/-- The clause that a value states. -/
def ofValue (value : Json) : Clause :=
  match setItems? value with
  | some items => .among items
  | none => .equals value

theorem eq_of_setItems? {value : Json} {items : List Json} (set : setItems? value = some items) :
    value = .record [(amongName, .list items)] ∨ value = .list [.list items] := by
  unfold setItems? at set
  split at set
  · split at set
    · next isAmong =>
      cases set
      exact .inl (by rw [isAmong])
    · cases set
  · cases set
    exact .inr rfl
  · cases set

theorem amongItems?_toDocument (value : Json) :
    amongItems? value.toDocument = (setItems? value).map Json.itemsToDocuments := by
  match value with
  | .null | .bool _ | .number _ | .text _ | .list [] | .record [] => rfl
  | .list [item] => cases item <;> rfl
  | .list (item :: next :: rest) => cases item <;> rfl
  | .record [(name, member)] =>
    cases member with
    | list items =>
      show (if name = amongName then _ else _) = (if name = amongName then _ else _ : Option _).map _
      split <;> rfl
    | _ => rfl
  | .record ((name, member) :: next :: rest) => cases member <;> rfl

/-- **Every value states a clause.** -/
theorem ofDocument?_toDocument {value : Json} (sorted : value.Sorted) :
    ofDocument? value.toDocument = some (ofValue value) := by
  rw [ofDocument?, amongItems?_toDocument, ofValue]
  cases set : setItems? value with
  | none =>
    dsimp only [Option.map_none]
    rw [Document.value?_toDocument sorted, Option.map_some]
  | some items =>
    have each : ∀ item ∈ items, item.Sorted := by
      rcases eq_of_setItems? set with rfl | rfl
      · cases sorted with
        | record _ members =>
          cases members _ List.mem_cons_self with
          | list each => exact each
      · cases sorted with
        | list lists =>
          cases lists _ List.mem_cons_self with
          | list each => exact each
    dsimp only [Option.map_some]
    rw [Document.itemValues?_of_sorted each, Option.map_some]

end Clause

/-! ### Fragments -/

namespace Filter

/-- The fragment is the text of a record. -/
def isRecordText (fragment : String) : Bool := (Json.parse? fragment).any Json.isRecord

/-- The clause that a fragment states on a field, if it is the text of a record with a member of this name. -/
def stated? (field fragment : String) : Option Clause :=
  match Json.parse? fragment with
  | some (.record members) => (members.lookup field).map Clause.ofValue
  | _ => none

variable {fragment : String}

theorem isRecordText_iff :
    isRecordText fragment = true ↔ ∃ members, Json.parse? fragment = some (.record members) := by
  unfold isRecordText
  constructor
  · intro isRecord
    obtain ⟨value, read, isRecord⟩ := (Option.any_eq_true _ _).mp isRecord
    cases value <;> cases isRecord
    exact ⟨_, read⟩
  · rintro ⟨members, read⟩
    rw [read]
    rfl

/-- **The text of a record is read member by member.** -/
theorem ofFragment_of_record {members : List (String × Json)}
    (written : Json.parse? fragment = some (.record members)) :
    ∃ filter, ofFragment fragment = .ok filter ∧
      filter.clauses.entries = members.map fun member => (member.1, Clause.ofValue member.2) := by
  obtain ⟨sorted, _⟩ := Json.parse?_sorted_shallow written
  cases sorted with
  | record increasing each =>
    have read : ofDocument? (Json.record members).toDocument =
        some ⟨Dictionary.ofList (members.map fun member => (member.1, Clause.ofValue member.2))⟩ := by
      rw [ofDocument?, Json.toDocument, Json.membersToDocuments_eq_map,
        Document.asDictionary?_record Json.toDocument Clause.ofValue fun member inside =>
          Clause.ofDocument?_toDocument (each member inside)]
      rfl
    have isRecord : (Json.record members).isRecord = true := rfl
    refine ⟨⟨_⟩, ?_, Dictionary.entries_ofList (List.pairwise_map.mpr increasing)⟩
    unfold ofFragment
    rw [written]
    dsimp only
    rw [if_pos isRecord, read]
    rfl

/-- **No other text is read.** -/
theorem ofFragment_of_other (other : isRecordText fragment = false) :
    ∃ failure, ofFragment fragment = .error failure := by
  unfold isRecordText at other
  unfold ofFragment
  cases read : Json.parse? fragment with
  | none => exact ⟨_, rfl⟩
  | some value =>
    rw [read, Option.any_some] at other
    dsimp only
    rw [other]
    exact ⟨_, rfl⟩

theorem isRecordText_of_error {failure : Failure} (refused : ofFragment fragment = .error failure) :
    isRecordText fragment = false := by
  refine Bool.eq_false_iff.mpr fun record => ?_
  obtain ⟨members, written⟩ := isRecordText_iff.mp record
  obtain ⟨filter, read, _⟩ := ofFragment_of_record written
  rw [read] at refused
  cases refused

theorem isRecordText_of_ok {filter : Filter} (read : ofFragment fragment = .ok filter) :
    isRecordText fragment = true := by
  cases record : isRecordText fragment with
  | true => rfl
  | false =>
    obtain ⟨failure, refused⟩ := ofFragment_of_other record
    rw [refused] at read
    cases read

/-- The filter of a fragment has the clauses that the members of its record state. -/
theorem of_ofFragment {filter : Filter} (read : ofFragment fragment = .ok filter) :
    ∃ members, Json.parse? fragment = some (.record members) ∧
      filter.clauses.entries = members.map fun member => (member.1, Clause.ofValue member.2) := by
  obtain ⟨members, written⟩ := isRecordText_iff.mp (isRecordText_of_ok read)
  obtain ⟨own, same, entries⟩ := ofFragment_of_record written
  obtain rfl : own = filter := Except.ok.inj (same.symm.trans read)
  exact ⟨members, written, entries⟩

theorem stated?_of_other (other : isRecordText fragment = false) (field : String) :
    stated? field fragment = none := by
  unfold stated?
  split
  · next members written =>
    rw [isRecordText_iff.mpr ⟨members, written⟩] at other
    cases other
  · rfl

/-- **The filter of a fragment has what the fragment states.** -/
theorem get?_of_ofFragment {filter : Filter} (read : ofFragment fragment = .ok filter) (field : String) :
    filter.get? field = stated? field fragment := by
  obtain ⟨members, written, entries⟩ := of_ofFragment read
  rw [stated?, written, get?, Dictionary.get?, entries]
  exact Dictionary.lookup_map Clause.ofValue members field

end Filter

end HostDashboard
