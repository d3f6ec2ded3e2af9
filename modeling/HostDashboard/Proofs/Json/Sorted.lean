/-
**Values whose records are sorted, and the texts that write them.**

The value of a document has the members of every record in increasing order of their names, and is not
nested more deeply than the document (`sorted_shallow_of_value?`). Conversely, a sorted value is the value
of the document that it is written as (`value?_toDocument`). So a text is read as a value that can
be written again: `parse?_print` for the whole way, `parse?_sorted_shallow` for its conditions.

Values may be compared without a look at the order of members (`Json.Same`). Sorted values are the same in this
sense only if they are equal (`Json.Same.eq`), so they are printed alike.
-/

import HostDashboard.Proofs.Dictionary
import HostDashboard.Proofs.Json.Written

namespace HostDashboard

/-- Every record in a value has its members in strictly increasing order of their names. -/
inductive Json.Sorted : Json → Prop
  | null : Sorted .null
  | bool (b : Bool) : Sorted (.bool b)
  | number (n : Number) : Sorted (.number n)
  | text (s : String) : Sorted (.text s)
  | list {items : List Json} (each : ∀ item ∈ items, Sorted item) : Sorted (.list items)
  | record {members : List (String × Json)}
      (increasing : members.Pairwise fun first second => first.1 < second.1)
      (each : ∀ member ∈ members, Sorted member.2) : Sorted (.record members)

/-! ### The same values -/

namespace Json

/-- The same value: in records each name has the same value, whatever the order of the members. -/
inductive Same : Json → Json → Prop
  | null : Same .null .null
  | bool (b : Bool) : Same (.bool b) (.bool b)
  | number (n : Number) : Same (.number n) (.number n)
  | text (s : String) : Same (.text s) (.text s)
  | list {items others : List Json} (each : List.Forall₂ Same items others) :
      Same (.list items) (.list others)
  | record {members others : List (String × Json)}
      (each : ∀ name, Option.Rel Same (members.lookup name) (others.lookup name)) :
      Same (.record members) (.record others)

theorem eq_of_forall₂ {α : Type} {alike : α → α → Prop} {first second : List α}
    (equal : ∀ one ∈ first, ∀ other ∈ second, alike one other → one = other)
    (each : List.Forall₂ alike first second) : first = second := by
  induction each with
  | nil => rfl
  | cons same _ ih =>
    rw [equal _ List.mem_cons_self _ List.mem_cons_self same, ih fun one member other member' =>
      equal one (List.mem_cons_of_mem _ member) other (List.mem_cons_of_mem _ member')]

theorem eq_of_rel {α : Type} {alike : α → α → Prop} {first second : Option α}
    (equal : ∀ one ∈ first, ∀ other ∈ second, alike one other → one = other)
    (related : Option.Rel alike first second) : first = second := by
  cases related with
  | none => rfl
  | some same => rw [equal _ rfl _ rfl same]

/-- **Sorted values that are the same are equal**: the members of a record can be sorted in one way only. -/
theorem Same.eq {first second : Json} (sorted : first.Sorted) (other : second.Sorted)
    (same : Same first second) : first = second := by
  induction sorted generalizing second with
  | null | bool | number | text =>
    cases same
    rfl
  | list _ ih =>
    cases same with
    | list each =>
      cases other with
      | list others =>
        rw [eq_of_forall₂ (fun item member _ member' => ih item member (others _ member')) each]
  | @record members increasing _ ih =>
    cases same with
    | @record _ others each =>
      cases other with
      | record increasing' sorted' =>
        let one : Dictionary Json := ⟨members, increasing⟩
        let two : Dictionary Json := ⟨others, increasing'⟩
        have alike (name : String) : one.get? name = two.get? name := by
          refine eq_of_rel (fun value found value' found' => ?_) (each name)
          exact ih _ (Dictionary.get?_eq_some_iff.mp found)
            (sorted' _ (Dictionary.get?_eq_some_iff.mp found'))
        exact congrArg (fun dictionary : Dictionary Json => Json.record dictionary.entries)
          (Dictionary.eq_of_get? alike)

theorem Sorted.same {value : Json} (sorted : value.Sorted) : Same value value := by
  induction sorted with
  | null => exact .null
  | bool b => exact .bool b
  | number n => exact .number n
  | text s => exact .text s
  | list _ ih => exact .list (List.forall₂_same.mpr ih)
  | @record members increasing _ ih =>
    refine .record fun name => ?_
    cases found : members.lookup name with
    | none => exact .none
    | some value =>
      let dictionary : Dictionary Json := ⟨members, increasing⟩
      have inside : (name, value) ∈ dictionary.entries := Dictionary.get?_eq_some_iff.mp found
      exact .some (ih _ inside)

end Json

/-! ### Documents of values -/

namespace Json

theorem membersToDocuments_eq_map (members : List (String × Json)) :
    membersToDocuments members = members.map fun member => (some member.1, member.2.toDocument) := by
  induction members with
  | nil => rfl
  | cons member rest ih => rw [membersToDocuments, ih, List.map_cons]

end Json

namespace Document

/-! ### Sorted values have themselves -/

theorem itemValues?_itemsToDocuments {items : List Json}
    (each : ∀ item ∈ items, item.toDocument.value? = some item) :
    itemValues? (Json.itemsToDocuments items) = some items := by
  induction items with
  | nil => rfl
  | cons item rest ih =>
    rw [Json.itemsToDocuments, itemValues?, each item List.mem_cons_self,
      ih fun other member => each other (List.mem_cons_of_mem _ member)]
    rfl

theorem memberValues?_membersToDocuments {members : List (String × Json)}
    (each : ∀ member ∈ members, member.2.toDocument.value? = some member.2) :
    memberValues? (Json.membersToDocuments members) = some members := by
  induction members with
  | nil => rfl
  | cons member rest ih =>
    obtain ⟨name, value⟩ := member
    have same : value.toDocument.value? = some value := each (name, value) List.mem_cons_self
    rw [Json.membersToDocuments, memberValues?, same,
      ih fun other member => each other (List.mem_cons_of_mem _ member)]
    rfl

/-- **A sorted value is the value of its document.** -/
theorem value?_toDocument {value : Json} (sorted : value.Sorted) :
    value.toDocument.value? = some value := by
  induction sorted with
  | null => rfl
  | bool b => rfl
  | number n => rfl
  | text s => rfl
  | list each ih =>
    rw [Json.toDocument, value?, itemValues?_itemsToDocuments ih, Option.map_some]
  | record increasing each ih =>
    rw [Json.toDocument, value?, memberValues?_membersToDocuments ih, Option.map_some, Json.ofMembers,
      Dictionary.entries_ofList increasing]

theorem itemValues?_of_sorted {items : List Json} (sorted : ∀ item ∈ items, item.Sorted) :
    itemValues? (Json.itemsToDocuments items) = some items :=
  itemValues?_itemsToDocuments fun item member => value?_toDocument (sorted item member)

/-! ### Values are sorted and not deeper than their documents -/

theorem itemsDepth_le_iff {items : List Json} {bound : Nat} :
    itemsDepth (Json.itemsToDocuments items) ≤ bound ↔
      ∀ item ∈ items, item.toDocument.depth ≤ bound := by
  induction items with
  | nil => exact ⟨fun _ => nofun, fun _ => Nat.zero_le _⟩
  | cons item rest ih =>
    rw [Json.itemsToDocuments, itemsDepth, Nat.max_le, ih, List.forall_mem_cons]

theorem membersDepth_le_iff {members : List (String × Json)} {bound : Nat} :
    membersDepth (Json.membersToDocuments members) ≤ bound ↔
      ∀ member ∈ members, member.2.toDocument.depth ≤ bound := by
  induction members with
  | nil => exact ⟨fun _ => nofun, fun _ => Nat.zero_le _⟩
  | cons member rest ih =>
    rw [Json.membersToDocuments, membersDepth, Nat.max_le, ih, List.forall_mem_cons]

mutual

/-- **The value of a document is sorted, and nested no deeper than the document.** -/
theorem sorted_shallow_of_value? : {document : Document} → {value : Json} →
    document.value? = some value → value.Sorted ∧ value.toDocument.depth ≤ document.depth
  | .null, _, has => by
    cases has
    exact ⟨.null, Nat.le_refl _⟩
  | .bool b, _, has => by
    cases has
    exact ⟨.bool b, Nat.le_refl _⟩
  | .number n, _, has => by
    obtain ⟨n, rfl, rfl⟩ := Option.map_eq_some_iff.mp has
    exact ⟨.number n, Nat.le_refl _⟩
  | .text s, _, has => by
    obtain ⟨s, rfl, rfl⟩ := Option.map_eq_some_iff.mp has
    exact ⟨.text s, Nat.le_refl _⟩
  | .list documents, _, has => by
    obtain ⟨items, values, rfl⟩ := Option.map_eq_some_iff.mp has
    have each := sorted_shallow_of_itemValues? values
    exact ⟨.list fun item member => (each item member).1,
      Nat.succ_le_succ (itemsDepth_le_iff.mpr fun item member => (each item member).2)⟩
  | .record documents, _, has => by
    obtain ⟨pairs, values, rfl⟩ := Option.map_eq_some_iff.mp has
    -- of a repeated name only one value is kept, so the value may be less deep than the document
    have each : ∀ member ∈ (Dictionary.ofList pairs).entries,
        member.2.Sorted ∧ member.2.toDocument.depth ≤ membersDepth documents :=
      fun member kept =>
        sorted_shallow_of_memberValues? values member (Dictionary.mem_of_mem_ofList kept)
    exact ⟨.record (Dictionary.ofList pairs).sorted fun member kept => (each member kept).1,
      Nat.succ_le_succ (membersDepth_le_iff.mpr fun member kept => (each member kept).2)⟩

theorem sorted_shallow_of_itemValues? : {documents : List Document} → {items : List Json} →
    itemValues? documents = some items →
    ∀ item ∈ items, item.Sorted ∧ item.toDocument.depth ≤ itemsDepth documents
  | [], _, has => by
    cases has
    exact nofun
  | document :: rest, _, has => by
    obtain ⟨value, first, has⟩ := Option.bind_eq_some_iff.mp has
    obtain ⟨others, later, has⟩ := Option.bind_eq_some_iff.mp has
    cases has
    intro item member
    rcases List.mem_cons.mp member with rfl | member
    · obtain ⟨sorted, shallow⟩ := sorted_shallow_of_value? first
      exact ⟨sorted, Nat.le_trans shallow (Nat.le_max_left _ _)⟩
    · obtain ⟨sorted, shallow⟩ := sorted_shallow_of_itemValues? later item member
      exact ⟨sorted, Nat.le_trans shallow (Nat.le_max_right _ _)⟩

theorem sorted_shallow_of_memberValues? : {documents : List (Option String × Document)} →
    {pairs : List (String × Json)} → memberValues? documents = some pairs →
    ∀ pair ∈ pairs, pair.2.Sorted ∧ pair.2.toDocument.depth ≤ membersDepth documents
  | [], _, has => by
    cases has
    exact nofun
  | (name, document) :: rest, _, has => by
    obtain ⟨known, _, has⟩ := Option.bind_eq_some_iff.mp has
    obtain ⟨value, first, has⟩ := Option.bind_eq_some_iff.mp has
    obtain ⟨others, later, has⟩ := Option.bind_eq_some_iff.mp has
    cases has
    intro pair member
    rcases List.mem_cons.mp member with rfl | member
    · obtain ⟨sorted, shallow⟩ := sorted_shallow_of_value? first
      exact ⟨sorted, Nat.le_trans shallow (Nat.le_max_left _ _)⟩
    · obtain ⟨sorted, shallow⟩ := sorted_shallow_of_memberValues? later pair member
      exact ⟨sorted, Nat.le_trans shallow (Nat.le_max_right _ _)⟩

end

end Document

namespace Json

/-! ### Texts of values -/

theorem parse?_sorted_shallow {source : String} {value : Json} (read : parse? source = some value) :
    value.Sorted ∧ value.toDocument.depth ≤ Document.greatestDepth := by
  obtain ⟨document, _, has⟩ := Option.bind_eq_some_iff.mp read
  unfold Document.toJson? at has
  split at has
  · next shallow =>
    obtain ⟨sorted, noDeeper⟩ := Document.sorted_shallow_of_value? has
    exact ⟨sorted, Nat.le_trans noDeeper shallow⟩
  · cases has

/-- **A value is read as it was printed**, if it is sorted, not nested too deeply and has no number other
than whole ones of 64 bits. -/
theorem parse?_print {value : Json} (sorted : value.Sorted)
    (shallow : value.toDocument.depth ≤ Document.greatestDepth) (exact : value.Exact) :
    parse? value.print = some value := by
  rw [parse?, Document.parse?, print, String.toList_ofList, Document.read?_write exact,
    Option.bind_some, Document.toJson?, if_pos shallow, Document.value?_toDocument sorted]

/-- A printed text is read as its value; that the value is sorted is seen from its document. -/
theorem parse?_of_eq_print {source : String} {value : Json} (printed : source = value.print)
    (own : value.toDocument.value? = some value)
    (shallow : value.toDocument.depth ≤ Document.greatestDepth) (exact : value.Exact) :
    parse? source = some value := by
  rw [printed, parse?_print (Document.sorted_shallow_of_value? own).1 shallow exact]

end Json

end HostDashboard
