/-
**What the API receives is the filter that was built.**

* `Navigation.filter_sendable`: a state whose autonomous systems are numbers has a filter, and all its
  clauses are sendable. The selections become sets of texts and numbers; a fragment is a text, so what it
  writes can be written again;
* `Navigation.filter_cases`: a malformed autonomous system is the only thing that leaves a state without one;
* `Url.pairs_appendQuery`: pairs that are appended to a query are read back after those of the query;
* `Client.search_sends_filter` puts the two together.
-/

import HostDashboard.Api.Client
import HostDashboard.Proofs.Facets.Asn
import HostDashboard.Proofs.Filter.Sendable
import HostDashboard.Proofs.Text.Form

namespace HostDashboard

/-! ### Selections -/

theorem Asn.mapM_parse {asns : List String} (valid : ∀ shown ∈ asns, ∃ number, parse shown = .ok number) :
    ∃ numbers, asns.mapM parse = .ok numbers ∧ ∀ number ∈ numbers, number < Nat.pow 2 32 := by
  induction asns with
  | nil => exact ⟨[], rfl, nofun⟩
  | cons shown rest ih =>
    obtain ⟨number, parsed⟩ := valid shown List.mem_cons_self
    obtain ⟨numbers, others, small⟩ := ih fun other member => valid other (List.mem_cons_of_mem _ member)
    refine ⟨number :: numbers, ?_, List.forall_mem_cons.mpr ⟨lt_of_parse parsed, small⟩⟩
    rw [List.mapM_cons, parsed, others]
    rfl

/-- Either all texts show numbers, or the first that shows none makes the whole list fail. -/
theorem Asn.mapM_parse_cases (asns : List String) :
    (∀ shown ∈ asns, ∃ number, parse shown = .ok number) ∨
      ∃ shown ∈ asns, ∃ failure, parse shown = .error failure ∧
        asns.mapM parse = .error failure := by
  induction asns with
  | nil => exact .inl (fun _ member => absurd member List.not_mem_nil)
  | cons first rest ih =>
    cases own : parse first with
    | error failure =>
      refine .inr ⟨first, List.mem_cons_self, failure, own, ?_⟩
      rw [List.mapM_cons, own]
      rfl
    | ok number =>
      rcases ih with valid | ⟨shown, member, failure, bad, failed⟩
      · exact .inl (List.forall_mem_cons.mpr ⟨⟨number, own⟩, valid⟩)
      · refine .inr ⟨shown, List.mem_cons_of_mem _ member, failure, bad, ?_⟩
        rw [List.mapM_cons, own, failed]
        rfl

/-- A value of a selection: a text, or a number of at most 32 bits. -/
def Json.IsSelected (value : Json) : Prop :=
  (∃ s, value = .text s) ∨ ∃ n, value = .ofNat n ∧ n < Nat.pow 2 32

theorem Clause.sendable_selected {values : List Json} (selected : ∀ value ∈ values, value.IsSelected) :
    (among values).Sendable := by
  have flat : Document.itemsDepth (Json.itemsToDocuments values) ≤ 0 := by
    refine Document.itemsDepth_le_iff.mpr fun value member => ?_
    rcases selected value member with ⟨s, rfl⟩ | ⟨n, rfl, _⟩ <;> exact Nat.le_refl _
  have shallow : Document.itemsDepth (Json.itemsToDocuments values) + 2 < Document.greatestDepth :=
    Nat.lt_of_le_of_lt (Nat.add_le_add_right flat 2) (by decide)
  refine sendable_among (fun value member => ?_) (fun value member => ?_) shallow
  · rcases selected value member with ⟨s, rfl⟩ | ⟨n, rfl, _⟩
    · exact .text s
    · exact .number _
  · rcases selected value member with ⟨s, rfl⟩ | ⟨n, rfl, small⟩
    · exact nofun
    · intro number inside
      rw [List.mem_singleton.mp inside]
      have pow32 : Nat.pow 2 32 = 4294967296 := rfl
      show -(Nat.pow 2 63 : Int) ≤ n ∧ (n : Int) < (Nat.pow 2 64 : Int)
      rw [pow32] at small
      have pow63 : Nat.pow 2 63 = 9223372036854775808 := rfl
      have pow64 : Nat.pow 2 64 = 18446744073709551616 := rfl
      rw [pow63, pow64]
      omega

/-! ### The builder -/

namespace FilterBuilder

variable {builder : FilterBuilder}

theorem select_sendable (sendable : builder.filter.Sendable) (category : Category)
    {values : List Json} (selected : ∀ value ∈ values, value.IsSelected) :
    (builder.select category values).filter.Sendable := by
  unfold select
  split
  · exact sendable
  · exact sendable.insert category.field (Clause.sendable_selected selected)

theorem selections_sendable (sendable : builder.filter.Sendable) {selections : Selections}
    (valid : ∀ shown ∈ selections.asns, ∃ number, Asn.parse shown = .ok number) :
    ∃ filled, builder.selections selections = .ok filled ∧ filled.filter.Sendable := by
  obtain ⟨numbers, parsed, small⟩ := Asn.mapM_parse valid
  have texts : ∀ (values : List String), ∀ value ∈ values.map Json.text, value.IsSelected := by
    intro values value member
    obtain ⟨s, _, rfl⟩ := List.mem_map.mp member
    exact .inl ⟨s, rfl⟩
  have ofNats : ∀ value ∈ numbers.map Json.ofNat, value.IsSelected := by
    intro value member
    obtain ⟨n, inside, rfl⟩ := List.mem_map.mp member
    exact .inr ⟨n, rfl, small n inside⟩
  refine ⟨_, by rw [FilterBuilder.selections, parsed]; rfl, ?_⟩
  exact select_sendable (select_sendable (select_sendable sendable .countries (texts _)) .asns ofNats)
    .services (texts _)

theorem fragment_sendable (sendable : builder.filter.Sendable) {source : String}
    (exact : ∀ value ∈ Json.parse? source, value.Exact) :
    (builder.fragment source).filter.Sendable := by
  unfold fragment
  split
  · next filter read => exact sendable.merge (Filter.sendable_of_ofFragment exact read)
  · exact sendable

theorem fragments_sendable (sendable : builder.filter.Sendable) {sources : List String}
    (exact : ∀ source ∈ sources, ∀ value ∈ Json.parse? source, value.Exact) :
    (builder.fragments sources).filter.Sendable := by
  induction sources generalizing builder with
  | nil => exact sendable
  | cons source rest ih =>
    exact ih (fragment_sendable sendable (exact source List.mem_cons_self)) fun other member =>
      exact other (List.mem_cons_of_mem _ member)

end FilterBuilder

/-- **A state whose autonomous systems are numbers has a filter, and it can be sent.** -/
theorem Navigation.filter_sendable {navigation : Navigation}
    (valid : ∀ shown ∈ navigation.selections.asns, ∃ number, Asn.parse shown = .ok number)
    (exact : ∀ fragment ∈ navigation.filters, ∀ value ∈ Json.parse? fragment, value.Exact) :
    ∃ filter, navigation.filter = .ok filter ∧ filter.Sendable := by
  obtain ⟨filled, built, sendable⟩ :=
    @FilterBuilder.selections_sendable {} Filter.sendable_empty _ valid
  refine ⟨_, ?_, FilterBuilder.fragments_sendable sendable exact⟩
  rw [Navigation.filter, built]
  rfl

/-- **Only a malformed autonomous system leaves a state without a filter.** -/
theorem Navigation.filter_cases (navigation : Navigation) :
    (∃ filter, navigation.filter = .ok filter ∧
        ∀ shown ∈ navigation.selections.asns, ∃ number, Asn.parse shown = .ok number) ∨
      ∃ shown ∈ navigation.selections.asns, ∃ failure, Asn.parse shown = .error failure ∧
        navigation.filter = .error failure := by
  rcases Asn.mapM_parse_cases navigation.selections.asns with valid | ⟨shown, member, failure, bad, failed⟩
  · obtain ⟨numbers, parsed, _⟩ := Asn.mapM_parse valid
    exact .inl ⟨_, by rw [Navigation.filter, FilterBuilder.selections, parsed]; rfl, valid⟩
  · refine .inr ⟨shown, member, failure, bad, ?_⟩
    rw [Navigation.filter, FilterBuilder.selections, failed]
    rfl

/-! ### The request -/

/-- **Appended pairs are read after those of the query.** -/
theorem Url.pairs_appendQuery (url : Url) (pairs : List (List Char × List Char)) :
    Text.Form.pairs ((url.appendQuery pairs).query.getD []) =
      Text.Form.pairs (url.query.getD []) ++ pairs := by
  have unlessEmpty : ∀ query : List Char,
      (if query.isEmpty = true then none else some query).getD [] = query := by
    intro query
    cases query <;> rfl
  unfold appendQuery
  dsimp only
  rw [unlessEmpty]
  generalize url.query.getD [] = old
  have written := Text.Form.pairs_write pairs
  -- no `&` is put where one side is empty
  split
  · next empty =>
    rcases Bool.or_eq_true_iff.mp empty with noQuery | noPairs
    · rw [List.isEmpty_iff.mp noQuery, List.nil_append, written]
      rfl
    · rw [List.isEmpty_iff.mp noPairs] at written ⊢
      obtain rfl : pairs = [] := written.symm
      rw [List.append_nil, List.append_nil]
  · rw [Text.Form.pairs_append, written]

namespace Client

/-- **What the API receives is the filter that was built.** The state names autonomous systems by their
numbers only, and every number in its fragments is a whole one of 64 bits. Then it has a filter, and the
text in which the filter is sent is read as this filter, clause by clause, in the way fragments are read.
A search for it sends, after the pairs of the base URL's own query, this text, the limit and the token if
there is one, and nothing else. -/
theorem search_sends_filter {navigation : Navigation}
    (valid : ∀ shown ∈ navigation.selections.asns, ∃ number, Asn.parse shown = .ok number)
    (exact : ∀ fragment ∈ navigation.filters, ∀ value ∈ Json.parse? fragment, value.Exact) :
    ∃ filter, navigation.filter = .ok filter ∧ Filter.ofFragment filter.param = .ok filter ∧
      ∀ (client : Client) (limit : Nat) (pageToken : Option String),
        Text.Form.pairs ((client.link (.search filter limit pageToken)).query.getD []) =
          Text.Form.pairs (client.base.query.getD []) ++
            [("filter".toList, filter.param.toList), ("limit".toList, Decimal.digits limit)] ++
            pageToken.toList.map fun token => ("page_token".toList, token.toList) := by
  obtain ⟨filter, built, sendable⟩ := Navigation.filter_sendable valid exact
  refine ⟨filter, built, sendable.ofFragment_param, fun client limit pageToken => ?_⟩
  have base : (client.endpoint (.search filter limit pageToken)).query = client.base.query := by
    unfold endpoint Url.appendPath
    split <;> rfl
  rw [link, Url.pairs_appendQuery, base, List.append_assoc]
  rfl

/-- Two fragments, of which the first writes a set of values as a list of a list, and a text that is none. -/
def mixedNavigation : Navigation where
  selections := { countries := ["Germany"], asns := ["AS3320"] }
  filters := ["\x7b\"asn.country\":[[\"France\",\"C\\u00f4te d'Ivoire\"]],\"port\":\x7b\"$gt\":1024\x7d\x7d",
    "not a fragment"]

/-- A client whose base URL has a query of its own. -/
def keyed : Client := ⟨{ scheme := "http".toList, path := .segments [], query := some "key=1".toList }⟩

theorem search_sends_filter_mixed :
    (∀ shown ∈ mixedNavigation.selections.asns, ∃ number, Asn.parse shown = .ok number) ∧
      (∀ fragment ∈ mixedNavigation.filters, ∀ value ∈ Json.parse? fragment, value.Exact) ∧
      ∃ filter, mixedNavigation.filter = .ok filter ∧ Filter.ofFragment filter.param = .ok filter ∧
        Text.Form.pairs ((keyed.link (.search filter 50 (some "a&b c"))).query.getD []) =
          [("key".toList, "1".toList), ("filter".toList, filter.param.toList),
            ("limit".toList, "50".toList), ("page_token".toList, "a&b c".toList)] := by
  have valid : ∀ shown ∈ mixedNavigation.selections.asns, ∃ number, Asn.parse shown = .ok number := by
    intro shown member
    rw [List.mem_singleton.mp member]
    exact ⟨3320, by decide +kernel⟩
  have exact : ∀ fragment ∈ mixedNavigation.filters, ∀ value ∈ Json.parse? fragment, value.Exact := by
    decide +kernel
  have own : Text.Form.pairs (keyed.base.query.getD []) = [("key".toList, "1".toList)] := by
    decide +kernel
  obtain ⟨filter, built, read, sent⟩ := search_sends_filter valid exact
  refine ⟨valid, exact, filter, built, read, ?_⟩
  rw [sent, own]
  rfl

end Client

end HostDashboard
