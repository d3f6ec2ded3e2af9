/-
**Every session shows a coherent page.**

A session holds three things that must agree: the hosts, the pager that counts them, and the sidebar, whose
selections in force are those of the state in the link. Hosts are replaced by refreshes and grow by
continuations; pages are turned and selections change in between. Results may come back in any order, under
whatever tickets and as often as they like.

* `Coherent` says that the three agree and that the current page is there. It holds of a new session, and
  every step keeps it (`Coherent.after`);
* `ResultsView.Slices` says what a page of hosts shows of them; `Coherent.slices` reads it off;
* `coherent_page` puts this together for every run.
-/

import HostDashboard.Proofs.Session.FreshPage

namespace HostDashboard

/-- One page of some hosts, and where it stands among the others. -/
structure ResultsView.Slices (results : ResultsView) (hosts : List Host) : Prop where
  total : results.total = hosts.length
  /-- There are as many pages as it takes to hold all hosts. -/
  lt_pageCount : ∀ n, n < results.pageCount ↔ n * 10 < hosts.length
  one_le : 1 ≤ results.page
  page_le : results.page ≤ max 1 results.pageCount
  hosts_eq : results.hosts =
    (hosts.take (min (results.page * 10) hosts.length)).drop ((results.page - 1) * 10)
  eq_nil : results.hosts = [] → hosts = []
  hasPrevious : results.hasPrevious = true ↔ 1 < results.page
  /-- A host lies behind the page. -/
  hasNext : results.hasNext = true ↔ hosts.drop (min (results.page * 10) hosts.length) ≠ []
  strip : results.pages ≠ [] → .page results.page ∈ results.pages

namespace Session

/-- The pager counts the hosts and stands on one of their pages, and the sidebar is in line with the
link. -/
structure Coherent (session : Session) : Prop where
  total : session.pager.total = session.data.hosts.length
  inRange : session.pager.InRange
  committed : session.Committed

theorem coherent_openAt (navigation : Navigation) : (openAt navigation).Coherent :=
  ⟨rfl, Pager.inRange_default, committed_openAt navigation⟩

namespace Coherent

variable {session : Session} (coherent : session.Coherent)

include coherent

theorem inRange_edit (edit : Edit) : (session.edit edit).pager.InRange := by
  cases edit with
  | submitQuery typed =>
    dsimp only [Session.edit, submitQuery]
    exact coherent.inRange.reset
  | navigate navigation => exact coherent.inRange.reset
  | toggle category value => exact coherent.inRange
  | discard => exact coherent.inRange
  | apply =>
    show (if session.apply.2 then session.pager.reset else session.pager).InRange
    split
    · exact coherent.inRange.reset
    · exact coherent.inRange
  | goTo page => exact coherent.inRange.goTo page

/-- **Every step keeps hosts, pager and sidebar together.** -/
theorem after (step : Step) : (session.after step).Coherent := by
  have committed := coherent.committed.after step
  have outcome := session.outcome step
  generalize session.after step = next at outcome committed ⊢
  cases outcome with
  | edited edit =>
    refine ⟨?_, coherent.inRange_edit edit, committed⟩
    rw [edit_total, edit_data]
    exact coherent.total
  | applied current data => exact ⟨Pager.total_sync _ _, coherent.inRange.sync _, committed⟩
  | appended current inFlight hosts nextPageToken =>
    exact ⟨Pager.total_sync _ _, coherent.inRange.sync _, committed⟩
  | _ => exact ⟨coherent.total, coherent.inRange, committed⟩

theorem run (steps : List Step) : (session.run steps).Coherent := by
  induction steps generalizing session with
  | nil => exact coherent
  | cons step rest ih => exact ih (coherent.after step)

/-- The view shows a page of the hosts that are held. -/
theorem slices (size : session.pager.size = 10) : session.view.results.Slices session.data.hosts where
  total := rfl
  lt_pageCount := fun n => by
    rw [← size, ← coherent.total]
    exact Pager.lt_pageCount_iff coherent.inRange.positive n
  one_le := coherent.inRange.one_le
  page_le := coherent.inRange.current_le
  hosts_eq := by
    rw [← size, ← coherent.total]
    exact coherent.inRange.slice_eq session.data.hosts
  eq_nil := coherent.inRange.eq_nil_of_slice coherent.total.symm
  hasPrevious := decide_eq_true_iff
  hasNext := by
    rw [← size, ← coherent.total]
    exact Pager.hasNext_iff coherent.inRange.positive coherent.total.symm
  strip := coherent.inRange.mem_strip

theorem pendingChanges_iff : session.view.facets.pendingChanges = true ↔
    ∃ category, session.panel.staged.get category ≠ session.navigation.selections.get category := by
  rw [← coherent.committed]
  exact session.panel.hasPendingChanges_iff

end Coherent

/-- **Every session shows a coherent page**, after any steps from any link on. The pager counts the hosts
and stands on one of their pages; the selections in force are those of the state in the link; the view shows
that page of the hosts, with a page before it, a page after it and its own number in the strip just where
there are such; it shows the link of that state, and changes pending exactly if some category is staged
otherwise than that state has it. -/
theorem coherent_page (location : String) (steps : List Step) :
    let session := (openAt (.parse location)).run steps
    session.pager.total = session.data.hosts.length ∧
      1 ≤ session.pager.current ∧ session.pager.current ≤ max 1 session.pager.pageCount ∧
      session.panel.committed = session.navigation.selections ∧
      session.view.results.Slices session.data.hosts ∧
      session.view.results.page = session.pager.current ∧
      session.view.results.pageCount = session.pager.pageCount ∧
      session.view.href = session.navigation.href ∧
      (session.view.facets.pendingChanges = true ↔ ∃ category,
        session.panel.staged.get category ≠ session.navigation.selections.get category) := by
  intro session
  have coherent : session.Coherent := (coherent_openAt (.parse location)).run steps
  have size : session.pager.size = 10 := size_run (openAt (.parse location)) steps
  exact ⟨coherent.total, coherent.inRange.one_le, coherent.inRange.current_le, coherent.committed,
    coherent.slices size, rfl, rfl, rfl, coherent.pendingChanges_iff⟩

end Session

end HostDashboard
