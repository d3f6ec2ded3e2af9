/-
**Selections take effect only when they are applied.**

What the user toggles is staged, and discarding forgets it again. Applying puts the staged selections in
force, and reports whether the session had others.

* `run_of_stages`: toggling and discarding leave everything alone but what is staged;
* the report compares what is staged with two things, the selections in force in the sidebar and those of
  the state in the link. In every session these two are the same (`Coherent.run`), so the report tells just
  whether the state changes (`Committed.apply_report`);
* `apply_apply`: after that nothing is left to apply;
* `apply_reports_effect` puts this together for every session, whatever happened to it before.
-/

import HostDashboard.Proofs.Session.Coherent
import HostDashboard.Proofs.Session.Provenance

namespace HostDashboard

/-- An edit that touches what is staged and nothing else. -/
def Edit.Stages : Edit → Prop
  | .toggle _ _ => True
  | .discard => True
  | _ => False

instance (edit : Edit) : Decidable edit.Stages :=
  match edit with
  | .toggle _ _ | .discard => .isTrue trivial
  | .submitQuery _ | .navigate _ | .apply | .goTo _ => .isFalse id

namespace Session

variable (session : Session)

/-! ### Before the selections are applied -/

/-- Such an edit leaves a session with another sidebar, where the same selections are in force. -/
theorem edit_of_stages {edit : Edit} (stages : edit.Stages) :
    ∃ panel : Panel, panel.committed = session.panel.committed ∧
      session.edit edit = { session with panel } := by
  cases edit with
  | toggle category value => exact ⟨session.panel.toggle category value, rfl, rfl⟩
  | discard => exact ⟨session.panel.discard, rfl, rfl⟩
  | _ => exact stages.elim

/-- **Toggling and discarding change what is staged and nothing else.** -/
theorem run_of_stages {edits : List Edit} (stages : ∀ edit ∈ edits, edit.Stages) :
    ∃ panel : Panel, panel.committed = session.panel.committed ∧
      session.run (edits.map .edit) = { session with panel } := by
  induction edits generalizing session with
  | nil => exact ⟨session.panel, rfl, rfl⟩
  | cons edit rest ih =>
    obtain ⟨first, sameFirst, edited⟩ := session.edit_of_stages (stages edit List.mem_cons_self)
    obtain ⟨last, sameLast, run⟩ :=
      ih { session with panel := first } fun other member => stages other (List.mem_cons_of_mem _ member)
    refine ⟨last, sameLast.trans sameFirst, ?_⟩
    rw [List.map_cons, run_cons, after, edited, run]

/-! ### What applying does -/

/-- Applying changes the state, the sidebar and the page, and nothing else. -/
theorem apply_session :
    session.apply.1 =
      { session with
        navigation := { session.navigation with selections := session.panel.staged }
        panel := .ofSelections session.panel.staged
        pager := if session.apply.2 then session.pager.reset else session.pager } := rfl

/-- **The report is true just if the state gets other selections.** -/
theorem Committed.apply_report {session : Session} (committed : session.Committed) :
    session.apply.2 = true ↔ session.panel.staged ≠ session.navigation.selections := by
  have either : session.apply.2 = true ↔
      session.panel.hasPendingChanges = true ∨
        session.navigation.selections ≠ session.panel.staged := by
    show (session.panel.hasPendingChanges ||
      decide (session.navigation.selections ≠ session.panel.staged)) = true ↔ _
    rw [Bool.or_eq_true, decide_eq_true_eq]
  rw [either]
  constructor
  · rintro (pending | differs)
    · obtain ⟨category, differs⟩ := session.panel.hasPendingChanges_iff.mp pending
      rw [committed] at differs
      exact fun same => differs (congrArg (Selections.get · category) same)
    · exact differs.symm
  · exact fun differs => .inr differs.symm

/-- **What was applied is applied**: a second time changes and reports nothing. -/
theorem apply_apply : session.apply.1.apply = (session.apply.1, false) := by
  have report : session.apply.1.apply.2 = false := by
    have committed : session.apply.1.Committed := rfl
    exact Bool.eq_false_iff.mpr fun changed => committed.apply_report.mp changed rfl
  have same : session.apply.1.apply.1 = session.apply.1 := by
    rw [apply_session session.apply.1, report]
    rfl
  exact Prod.ext same report

/-- **Applying reports exactly whether it has an effect.** A session was opened at any state and went
through any steps; then the user toggles and discards. That leaves all of the session alone but what is
staged. When the user applies it,

* the report is true just if the state has other selections afterwards than before the toggling;
* the state has the selections that were staged, and the same fragments and search text as before;
* in the sidebar these selections are both in force and staged;
* the page is page one if the report is true, and stays if it is not; all else stays in any case;
* to apply again reports no change, and makes none. -/
theorem apply_reports_effect (opened : Navigation) (history : List Step) {edits : List Edit}
    (stages : ∀ edit ∈ edits, edit.Stages) :
    let before := (openAt opened).run history
    let edited := before.run (edits.map .edit)
    let applied := edited.apply.1
    edited = { before with panel := ⟨before.panel.committed, edited.panel.staged⟩ } ∧
      (edited.apply.2 = true ↔ applied.navigation.selections ≠ before.navigation.selections) ∧
      applied =
        { before with
          navigation := { before.navigation with selections := edited.panel.staged }
          panel := ⟨edited.panel.staged, edited.panel.staged⟩
          pager := { before.pager with
            current := if edited.apply.2 then 1 else before.pager.current } } ∧
      applied.apply = (applied, false) := by
  intro before edited applied
  obtain ⟨panel, inForce, same⟩ := before.run_of_stages stages
  have committed : edited.Committed :=
    (((coherent_openAt opened).run history).run (edits.map .edit)).committed
  have staged : edited = { before with panel } := same
  have navigation : edited.navigation = before.navigation := by rw [staged]
  have pager : (if edited.apply.2 then edited.pager.reset else edited.pager) =
      { before.pager with current := if edited.apply.2 then 1 else before.pager.current } := by
    have unturned : edited.pager = before.pager := by rw [staged]
    rw [unturned]
    split <;> rfl
  refine ⟨?_, ?_, ?_, edited.apply_apply⟩
  · rw [staged, ← inForce]
  · rw [committed.apply_report, navigation]
    rfl
  · show edited.apply.1 = _
    rw [apply_session, pager, navigation]
    rw [staged]
    rfl

/-- A state with two countries selected. -/
def twoCountries : Navigation where
  selections := { countries := ["Germany", "France"] }
  query := some "port: 22"

/-- Eleven hosts are found, and the user turns to the second page. -/
def secondPage : List Step :=
  [.beginRefresh, .completeRefresh ⟨1, twoCountries⟩ { hosts := .replicate 11 (.plain "a") },
    .edit (.goTo 2)]

/-- A service is toggled and discarded; then a country is toggled away and back, and so goes to the end. -/
def reordering : List Edit :=
  [.toggle .services "ssh", .discard, .toggle .countries "Germany", .toggle .countries "Germany"]

/-- Another order is an effect, too. -/
theorem apply_reports_effect_reordered :
    let before := (openAt twoCountries).run secondPage
    let edited := before.run (reordering.map .edit)
    (∀ edit ∈ reordering, edit.Stages) ∧ before.pager.current = 2 ∧ edited.apply.2 = true ∧
      edited.apply.1.navigation =
        { selections := { countries := ["France", "Germany"] }, query := some "port: 22" } ∧
      edited.apply.1.pager.current = 1 ∧ edited.apply.1.apply = (edited.apply.1, false) := by
  intro before edited
  have stages : ∀ edit ∈ reordering, edit.Stages := by decide
  have staged : edited.panel.staged = { countries := ["France", "Germany"] } := by decide
  have second : before.pager.current = 2 := by decide
  have selected : before.navigation = twoCountries := by decide
  obtain ⟨_, report, applied, again⟩ := apply_reports_effect twoCountries secondPage stages
  have navigation : edited.apply.1.navigation =
      { selections := { countries := ["France", "Germany"] }, query := some "port: 22" } := by
    have own := congrArg Session.navigation applied
    dsimp only at own
    rw [own, staged, selected]
    rfl
  have changed : edited.apply.2 = true := by
    refine report.mpr ?_
    rw [navigation, selected]
    decide
  refine ⟨stages, second, changed, navigation, ?_, again⟩
  have page := congrArg (fun session => session.pager.current) applied
  dsimp only at page
  rw [page, if_pos changed]

end Session

end HostDashboard
