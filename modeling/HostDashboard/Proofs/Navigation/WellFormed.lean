/-
**The states that a link can hold.**

A value survives in a link exactly if it is not empty, holds no comma and has no blanks at its ends; a filter
fragment survives if it is not blank, and a search text if it is not empty.

* `normal_eq_self_iff`: a state of which everything survives is one that the link keeps as it is;
* `wellFormed_parse`: whatever text a link is, its state survives, since every parameter keeps this
  (`WellFormed.addParameter`);
* `link_codec_exact` puts the two together with what a link keeps of any state.
-/

import HostDashboard.Proofs.Navigation.Normal

namespace HostDashboard

/-- A selected value that a link can hold. -/
structure Linkable (value : String) : Prop where
  nonempty : value ≠ ""
  noComma : ',' ∉ value.toList
  unpadded : Text.Unpadded value.toList

instance (value : String) : Decidable (Linkable value) :=
  decidable_of_iff (value ≠ "" ∧ ',' ∉ value.toList ∧ Text.Unpadded value.toList)
    ⟨fun ⟨nonempty, noComma, unpadded⟩ => ⟨nonempty, noComma, unpadded⟩,
      fun ⟨nonempty, noComma, unpadded⟩ => ⟨nonempty, noComma, unpadded⟩⟩

/-- Every selected value of every category is linkable. -/
def Selections.Linkable (selections : Selections) : Prop :=
  ∀ category, ∀ value ∈ selections.get category, HostDashboard.Linkable value

/-- A state that its link can hold. -/
structure Navigation.WellFormed (navigation : Navigation) : Prop where
  selections : navigation.selections.Linkable
  filters : ∀ fragment ∈ navigation.filters, ∃ c ∈ fragment.toList, Text.isBlank c = false
  query : navigation.query ≠ some ""

theorem Selections.Linkable.set {selections : Selections} (linkable : selections.Linkable)
    (category : Category) {values : List String} (each : ∀ value ∈ values, HostDashboard.Linkable value) :
    (selections.set category values).Linkable := by
  intro other value member
  rw [Selections.get_set] at member
  split at member
  · exact each value member
  · exact linkable other value member

namespace Navigation

/-! ### Lists of values -/

theorem linkable_of_mem_listed {list : List Char} {value : String} (member : value ∈ listed list) :
    Linkable value := by
  obtain ⟨trimmed, kept, rfl⟩ := List.mem_map.mp member
  obtain ⟨member, some⟩ := List.mem_filter.mp kept
  obtain ⟨piece, found, rfl⟩ := List.mem_map.mp member
  have within : ∀ c ∈ Text.trim piece, c ∈ piece := by
    intro c inside
    have inStart : c ∈ Text.trimStart piece :=
      (List.rdropWhile_prefix Text.isBlank (Text.trimStart piece)).subset inside
    exact (List.dropWhile_suffix Text.isBlank).subset inStart
  refine ⟨fun nil => ?_, ?_, ?_⟩
  · rw [String.ofList_eq_empty_iff.mp nil] at some
    cases some
  · rw [String.toList_ofList]
    exact fun comma => Text.notMem_of_mem_pieces found (within ',' comma)
  · rw [String.toList_ofList]
    exact Text.unpadded_trim piece

/-- A linkable value is read as itself. -/
theorem listed_of_linkable {value : String} (linkable : Linkable value) : listed value.toList = [value] := by
  have whole : Text.pieces ',' value.toList = [value.toList] := Text.pieces_of_notMem linkable.noComma
  have trimmed : Text.trim value.toList = value.toList :=
    (Text.trim_eq_self_iff _).mpr linkable.unpadded
  have kept : [value.toList].filter (fun piece => !piece.isEmpty) = [value.toList] := by
    simp [linkable.nonempty]
  rw [listed, whole, List.map_singleton, trimmed, kept, List.map_singleton, String.ofList_toList]

/-- **A link keeps exactly the linkable values as they are.** -/
theorem keptValues_eq_self_iff {values : List String} :
    keptValues values = values ↔ ∀ value ∈ values, Linkable value := by
  constructor
  · intro same value member
    rw [← same] at member
    obtain ⟨_, _, inside⟩ := List.mem_flatMap.mp member
    exact linkable_of_mem_listed inside
  · intro linkable
    induction values with
    | nil => rfl
    | cons value rest ih =>
      rw [keptValues, List.flatMap_cons, ← keptValues, listed_of_linkable (linkable value List.mem_cons_self),
        ih fun other member => linkable other (List.mem_cons_of_mem _ member)]
      rfl

/-! ### States -/

theorem keptFragments_eq_self_iff {fragments : List String} :
    keptFragments fragments = fragments ↔
      ∀ fragment ∈ fragments, ∃ c ∈ fragment.toList, Text.isBlank c = false := by
  rw [keptFragments, List.filter_eq_self]
  simp [Text.isBlankText]

theorem normal_selections_eq_self_iff {selections : Selections} :
    selections.normal = selections ↔ selections.Linkable := by
  constructor
  · intro same category
    rw [← keptValues_eq_self_iff, ← Selections.get_normal, same]
  · intro linkable
    refine Selections.eq_of_get fun category => ?_
    rw [Selections.get_normal, keptValues_eq_self_iff.mpr (linkable category)]

/-- **A link keeps exactly the well-formed states as they are.** -/
theorem normal_eq_self_iff {navigation : Navigation} :
    navigation.normal = navigation ↔ navigation.WellFormed := by
  obtain ⟨selections, filters, query⟩ := navigation
  have text : query.filter (fun query => query ≠ "") = query ↔ query ≠ some "" := by
    cases query <;> simp [Option.filter_some]
  rw [normal, mk.injEq, normal_selections_eq_self_iff, keptFragments_eq_self_iff, text]
  exact ⟨fun kept => ⟨kept.1, kept.2.1, kept.2.2⟩,
    fun wellFormed => ⟨wellFormed.selections, wellFormed.filters, wellFormed.query⟩⟩

/-! ### The states of links -/

/-- **Whatever a parameter is, it keeps a state well-formed.** -/
theorem WellFormed.addParameter {navigation : Navigation} (wellFormed : navigation.WellFormed)
    (name value : List Char) : (navigation.addParameter name value).WellFormed := by
  unfold Navigation.addParameter
  split
  · next category _ =>
    refine ⟨wellFormed.selections.set category fun each member => ?_, wellFormed.filters,
      wellFormed.query⟩
    rcases List.mem_append.mp member with old | new
    · exact wellFormed.selections category each old
    · exact linkable_of_mem_listed new
  split
  · split
    · exact wellFormed
    · next notBlank =>
      refine ⟨wellFormed.selections, fun fragment member => ?_, wellFormed.query⟩
      rcases List.mem_append.mp member with old | new
      · exact wellFormed.filters fragment old
      · rw [List.mem_singleton.mp new, String.toList_ofList]
        simpa using notBlank
  split
  · split
    · exact wellFormed
    · next nonempty =>
      refine ⟨wellFormed.selections, wellFormed.filters, fun empty => nonempty ?_⟩
      rw [List.isEmpty_iff]
      exact String.ofList_eq_empty_iff.mp (Option.some.inj empty)
  · exact wellFormed

/-- **The state of any link is well-formed.** -/
theorem wellFormed_parse (source : String) : (parse source).WellFormed := by
  have start : ({} : Navigation).WellFormed := by
    refine ⟨fun category value member => ?_, nofun, nofun⟩
    cases category <;> cases member
  unfold parse read ofParameters
  generalize Text.Form.pairs (withoutMark source.toList) = parameters
  generalize ({} : Navigation) = navigation at start
  induction parameters generalizing navigation with
  | nil => exact start
  | cons pair rest ih => exact ih _ (start.addParameter pair.1 pair.2)

/-- **A well-formed state is the state of its link.** -/
theorem WellFormed.parse_href {navigation : Navigation} (wellFormed : navigation.WellFormed) :
    parse navigation.href = navigation := by
  rw [Navigation.parse_href, normal_eq_self_iff.mpr wellFormed]

/-- A state is the state of its link only if it is well-formed. -/
theorem wellFormed_of_parse_href {navigation : Navigation} (same : parse navigation.href = navigation) :
    navigation.WellFormed :=
  same ▸ wellFormed_parse navigation.href

/-- **Links lose exactly what is ill-formed.** The state of the link of a state is what the link keeps of it,
and this is the state itself exactly if it is well-formed. The state of any link, whatever text it is, is the
state of its own link. -/
theorem link_codec_exact :
    (∀ navigation : Navigation, parse navigation.href = navigation.normal ∧
      (parse navigation.href = navigation ↔ navigation.WellFormed)) ∧
    ∀ source : String, parse (parse source).href = parse source := by
  refine ⟨fun navigation => ⟨parse_href navigation, ?_⟩, fun source => (wellFormed_parse source).parse_href⟩
  rw [parse_href, normal_eq_self_iff]

end Navigation

end HostDashboard
