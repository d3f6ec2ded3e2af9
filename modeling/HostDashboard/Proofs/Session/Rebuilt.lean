/-
**When a session can be rebuilt from its link.**

The fragments and the search text of a session always survive in its link: a fragment is the text of a
record, and an empty text is not kept. The selected values survive exactly if they are linkable, and only
the user can bring in one that is not: a value that is toggled comes in as it is, while the values of a
link have been cut at commas and trimmed.

* `Confined` follows the values from the sidebar into the state: whatever is selected or staged is
  linkable or was toggled. Every step keeps it (`Confined.after`);
* `link_rebuilds_iff` puts this together with what links can hold;
* `comma_is_cut`: a country with a comma in its name is selected, applied, and cut in two by the link.
-/

import HostDashboard.Proofs.Navigation.WellFormed
import HostDashboard.Proofs.Session.Step

namespace HostDashboard

/-- The values of every category are linkable, except for some. -/
def Selections.LinkableBut (selections : Selections) (except : Category → String → Prop) : Prop :=
  ∀ category, ∀ value ∈ selections.get category, HostDashboard.Linkable value ∨ except category value

theorem Selections.LinkableBut.toggle {selections : Selections} {except : Category → String → Prop}
    (confined : selections.LinkableBut except) {category : Category} {value : String}
    (excepted : except category value) : (selections.toggle category value).LinkableBut except := by
  intro other kept member
  rw [Selections.toggle, get_set] at member
  split at member
  · next same =>
    subst same
    unfold flip at member
    split at member
    · exact confined other kept (List.mem_of_mem_erase member)
    · rcases List.mem_append.mp member with old | new
      · exact confined other kept old
      · rw [List.mem_singleton.mp new]
        exact .inr excepted
  · exact confined other kept member

/-- A filter fragment is the text of a record. -/
theorem FieldQuery.fragment_notBlank (query : FieldQuery) :
    ∃ c ∈ query.fragment.toList, Text.isBlank c = false := by
  refine ⟨'\x7b', ?_, by decide⟩
  rw [fragment, Json.print, String.toList_ofList, Json.write]
  exact List.mem_cons_self

namespace Session

/-- If the user navigates in this step, then to a link. -/
def Step.FollowsLinks (step : Step) : Prop :=
  ∀ navigation, step = .edit (.navigate navigation) → ∃ location, navigation = .parse location

/-- The fragments and the search text survive in the link, and the selected values do but for some. -/
structure Confined (except : Category → String → Prop) (session : Session) : Prop where
  selections : session.navigation.selections.LinkableBut except
  staged : session.panel.staged.LinkableBut except
  committed : session.panel.committed.LinkableBut except
  filters : ∀ fragment ∈ session.navigation.filters, ∃ c ∈ fragment.toList, Text.isBlank c = false
  query : session.navigation.query ≠ some ""

variable {except : Category → String → Prop} {session : Session}

theorem Confined.of_parse (location : String) {session : Session}
    (navigation : session.navigation = .parse location)
    (panel : session.panel = .ofSelections (Navigation.parse location).selections) :
    session.Confined except := by
  have wellFormed := Navigation.wellFormed_parse location
  have confined : (Navigation.parse location).selections.LinkableBut except :=
    fun category value member => .inl (wellFormed.selections category value member)
  constructor
  · rw [navigation]
    exact confined
  · rw [panel]
    exact confined
  · rw [panel]
    exact confined
  · rw [navigation]
    exact wellFormed.filters
  · rw [navigation]
    exact wellFormed.query

theorem Confined.edit (confined : session.Confined except) {edit : Edit}
    (follows : (Step.edit edit).FollowsLinks)
    (toggled : ∀ category value, edit = .toggle category value → except category value) :
    (session.edit edit).Confined except := by
  cases edit with
  | submitQuery typed =>
    dsimp only [Session.edit, submitQuery]
    generalize Text.trimmed typed = text
    refine ⟨confined.selections, confined.staged, confined.committed, fun fragment member => ?_, ?_⟩
    · obtain ⟨query, _, rfl⟩ := Option.map_eq_some_iff.mp (Option.mem_toList.mp member)
      exact query.fragment_notBlank
    · dsimp only
      split
      · exact nofun
      · next nonempty =>
        intro empty
        rw [Option.some.inj empty] at nonempty
        exact nonempty rfl
  | navigate navigation =>
    obtain ⟨location, rfl⟩ := follows navigation rfl
    exact .of_parse location rfl rfl
  | toggle category value =>
    exact ⟨confined.selections, confined.staged.toggle (toggled category value rfl),
      confined.committed, confined.filters, confined.query⟩
  | discard =>
    exact ⟨confined.selections, confined.committed, confined.committed, confined.filters,
      confined.query⟩
  | apply =>
    exact ⟨confined.staged, confined.staged, confined.staged, confined.filters, confined.query⟩
  | goTo page => exact ⟨confined.selections, confined.staged, confined.committed, confined.filters,
      confined.query⟩

/-- **Every step keeps the values confined.** -/
theorem Confined.after (confined : session.Confined except) {step : Step} (follows : step.FollowsLinks)
    (toggled : ∀ category value, step = .edit (.toggle category value) → except category value) :
    (session.after step).Confined except := by
  by_cases noEdit : ∀ edit, step ≠ .edit edit
  · obtain ⟨navigation, panel⟩ := session.after_navigation_panel noEdit
    obtain ⟨selections, staged, committed, filters, query⟩ := confined
    constructor
    · rwa [navigation]
    · rwa [panel]
    · rwa [panel]
    · rwa [navigation]
    · rwa [navigation]
  · obtain ⟨edit, same⟩ := Classical.not_forall.mp noEdit
    rw [Classical.not_not.mp same] at follows toggled ⊢
    exact confined.edit follows fun category value same => toggled category value (congrArg _ same)

theorem Confined.run {steps : List Step} (confined : session.Confined except)
    (follows : ∀ step ∈ steps, step.FollowsLinks)
    (toggled : ∀ category value, .edit (.toggle category value) ∈ steps → except category value) :
    (session.run steps).Confined except := by
  induction steps generalizing session with
  | nil => exact confined
  | cons step rest ih =>
    refine ih (confined.after (follows step List.mem_cons_self) ?_)
      (fun other member => follows other (List.mem_cons_of_mem _ member))
      (fun category value member => toggled category value (List.mem_cons_of_mem _ member))
    rintro category value rfl
    exact toggled category value List.mem_cons_self

/-- **When a link rebuilds its session.** A session was opened at a link and went through any steps, where
the user navigated to links only. The link on its page is read as the state of the session exactly if
every selected value is linkable: not empty, without commas and without blanks at its ends. A selected
value that is not linkable was toggled by the user. -/
theorem link_rebuilds_iff (location : String) {steps : List Step}
    (follows : ∀ step ∈ steps, step.FollowsLinks) :
    let session := (openAt (.parse location)).run steps
    (Navigation.parse session.view.href = session.navigation ↔
        session.navigation.selections.Linkable) ∧
      ∀ category, ∀ value ∈ session.navigation.selections.get category, ¬ Linkable value →
        .edit (.toggle category value) ∈ steps := by
  intro session
  have confined : session.Confined fun category value => .edit (.toggle category value) ∈ steps :=
    (Confined.of_parse location rfl rfl).run follows fun _ _ member => member
  refine ⟨⟨fun same => ?_, fun linkable => ?_⟩, fun category value member notLinkable => ?_⟩
  · exact (Navigation.wellFormed_of_parse_href same).selections
  · exact Navigation.WellFormed.parse_href ⟨linkable, confined.filters, confined.query⟩
  · exact (confined.selections category value member).resolve_left notLinkable

/-- One country and one service. -/
def linkedNavigation : Navigation where
  selections := { countries := ["Germany"], services := ["ssh"] }

/-- The user comes by a link, takes one country for another, and searches. -/
def exchangeRun : List Step :=
  [.edit (.navigate (.parse linkedNavigation.href)), .edit (.toggle .countries "Germany"),
    .edit (.toggle .countries "France"), .edit .apply, .edit (.submitQuery " port: 22 ")]

theorem link_rebuilds_exchanged :
    (∀ step ∈ exchangeRun, step.FollowsLinks) ∧
      Navigation.parse ((openAt (.parse "")).run exchangeRun).view.href =
        ((openAt (.parse "")).run exchangeRun).navigation := by
  have follows : ∀ step ∈ exchangeRun, step.FollowsLinks := by
    intro step member navigation same
    subst same
    simp only [exchangeRun, List.mem_cons, Step.edit.injEq, Edit.navigate.injEq, reduceCtorEq,
      List.not_mem_nil, or_false] at member
    exact ⟨_, member⟩
  have linked : Navigation.parse linkedNavigation.href = linkedNavigation := by
    refine Navigation.WellFormed.parse_href ⟨fun category => ?_, nofun, nofun⟩
    cases category <;> decide
  have selected : ((openAt (.parse "")).run exchangeRun).navigation.selections =
      { countries := ["France"], services := ["ssh"] } := by
    rw [exchangeRun, linked]
    rfl
  refine ⟨follows, (link_rebuilds_iff "" follows).1.mpr fun category => ?_⟩
  rw [selected]
  cases category <;> decide

/-- A country with a comma in its name is selected and applied. -/
def cutRun : List Step :=
  [.edit (.toggle .countries "Korea, Republic of"), .edit .apply]

/-- **A comma in a value is lost**: the link of the session is read as two countries in place of one. -/
theorem comma_is_cut :
    (∀ step ∈ cutRun, step.FollowsLinks) ∧
      ((openAt (.parse "")).run cutRun).navigation.selections.countries = ["Korea, Republic of"] ∧
      ((openAt (.parse "")).run cutRun).view.href = "?countries=Korea%2C+Republic+of" ∧
      Navigation.parse ((openAt (.parse "")).run cutRun).view.href ≠
        ((openAt (.parse "")).run cutRun).navigation := by
  refine ⟨?_, by decide +kernel, by decide +kernel, by decide +kernel⟩
  intro step member navigation same
  subst same
  simp [cutRun] at member

end Session

end HostDashboard
