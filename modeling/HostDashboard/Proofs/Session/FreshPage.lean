/-
**A page of a session is the page of its link.**

A tab that navigates to a link, loads and goes to a page shows what a visitor without a session is shown
for this link, this page and these data; and so does a tab that was just opened at the link. Nothing that
happened before shows. All that the page reads is set anew on the way, except for the size of a page, and
that never changes (`size_run`): so the whole session is a new one but for its generation and its log
(`navigate_reload`).
-/

import HostDashboard.Proofs.Session.Step

namespace HostDashboard

namespace Pager

/-- From page one, only the size of a page counts. -/
theorem sync_reset {first second : Pager} (size : first.size = second.size) (total : Nat) :
    first.reset.sync total = second.reset.sync total := by
  unfold sync reset pageCount
  rw [size]

end Pager

namespace Session

variable (session : Session)

/-! ### The size of a page -/

theorem size_edit (edit : Edit) : (session.edit edit).pager.size = session.pager.size := by
  cases edit with
  | submitQuery typed => dsimp only [Session.edit, submitQuery, Pager.reset]
  | apply =>
    show (if session.apply.2 then session.pager.reset else session.pager).size = _
    split <;> rfl
  | _ => rfl

theorem size_after (step : Step) : (session.after step).pager.size = session.pager.size := by
  have outcome := session.outcome step
  generalize session.after step = next at outcome ⊢
  cases outcome with
  | edited edit => exact session.size_edit edit
  | applied current data => exact Pager.size_sync _ _
  | appended current inFlight hosts nextPageToken => exact Pager.size_sync _ _
  | _ => rfl

theorem size_run (steps : List Step) : (session.run steps).pager.size = session.pager.size := by
  induction steps generalizing session with
  | nil => rfl
  | cons step rest ih => rw [run_cons, ih, size_after]

/-! ### Loading a page -/

/-- A refresh from beginning to end, with nothing in between, and then a page. -/
def reload (data : Data) (page : Int) : Session :=
  let begun := session.beginRefresh
  ((begun.1.completeRefresh begun.2.generation data).1).goTo page

theorem reload_eq (data : Data) (page : Int) :
    session.reload data page =
      { session with
        pager := (session.pager.sync data.hosts.length).goTo page
        data
        status := data.status
        generation := session.generation + 1
        inFlight := none
        events := session.events ++ [.loading (session.generation + 1)] ++
          [outcomeEvent (session.generation + 1) data] } := by
  show ((session.beginRefresh.1.completeRefresh session.beginRefresh.1.generation data).1).goTo page = _
  rw [completeRefresh_current]
  rfl

/-- **Navigating leaves nothing of what was before** but the generation and the log. -/
theorem navigate_reload {session : Session} (size : session.pager.size = ({} : Pager).size)
    (navigation : Navigation) (data : Data) (page : Int) :
    (session.navigate navigation).reload data page =
      { (openAt navigation).reload data page with
        generation := session.generation + 1
        events := session.events ++ [.loading (session.generation + 1)] ++
          [outcomeEvent (session.generation + 1) data] } := by
  have pager : (session.navigate navigation).pager.sync data.hosts.length =
      (openAt navigation).pager.sync data.hosts.length := Pager.sync_reset size _
  rw [reload_eq, reload_eq, pager]
  rfl

/-- **A page of a session is the page of its link.** Whatever steps a session took since it was opened
anywhere: when it navigates to a link, refreshes and goes to a page, its view is the one of the link
without a session, for the same data and page. The view of a session that was just opened at the link is
the same, and the two sessions differ in nothing but their generation and their log. -/
theorem page_of_link (start : Navigation) (steps : List Step) (location : String) (data : Data)
    (page : Int) :
    let session := (openAt start).run steps
    let navigated := (session.navigate (.parse location)).reload data page
    let opened := (openAt (.parse location)).reload data page
    navigated.view = .ofLink (.parse location) page data ∧
      opened.view = .ofLink (.parse location) page data ∧
      navigated = { opened with generation := navigated.generation, events := navigated.events } := by
  intro session navigated opened
  have size : session.pager.size = ({} : Pager).size := size_run (openAt start) steps
  have same := navigate_reload size (.parse location) data page
  have shown : opened.view = .ofLink (.parse location) page data := by
    show ((openAt (.parse location)).reload data page).view = _
    rw [reload_eq]
    rfl
  refine ⟨?_, shown, ?_⟩
  · show ((session.navigate (.parse location)).reload data page).view = _
    rw [same]
    exact shown
  · show (session.navigate (.parse location)).reload data page = { opened with
      generation := ((session.navigate (.parse location)).reload data page).generation
      events := ((session.navigate (.parse location)).reload data page).events }
    rw [same]

end Session

end HostDashboard
