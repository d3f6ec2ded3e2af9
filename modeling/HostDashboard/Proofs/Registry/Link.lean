/-
**Whether the link describes the results.**

Every page that an operation answers is the page of its session right after a locked step. It displays
the state in the link, and its hosts, once they are ready, are those of the refresh that began last.
Whether that refresh was for the state in the link is another matter: when the state has changed and the
refresh that follows has not begun, the page is ready all the same.

* `page_matches_link_iff_settled` says that this is the only way in which a page can show other hosts
  than its link describes, as long as the run is prudent;
* `page_of_another_query` is about a page that does.
-/

import HostDashboard.Proofs.Registry.Cursor

namespace HostDashboard

/-- The page shows a state: the text of its search, its link, and its selections in the sidebar, along
with those that are staged. -/
structure DashboardView.Displays (view : DashboardView) (navigation : Navigation) : Prop where
  query : view.query = navigation.query
  href : view.href = navigation.href
  facets : ∃ staged counts, view.facets = (Panel.mk navigation.selections staged).view counts

theorem Session.Committed.displays {session : Session} (committed : session.Committed) :
    session.view.Displays session.navigation := by
  refine ⟨rfl, rfl, session.panel.staged, session.data.counts, ?_⟩
  rw [← committed]
  rfl

namespace Traffic

variable {client : Client} {searchLimit : Nat}

/-- A page that a step answers is the page of the session that the task is about. -/
theorem session_of_page {moves : List Move} {place : Nat} {deliveries : List Delivery} {task : Task}
    {view : DashboardView} (found : (run client searchLimit moves).tasks[place]? = some task)
    (pending : task.answer? = none)
    (answered : (run client searchLimit (moves ++ [.step place deliveries])).tasks[place]? =
      some (.done (.dashboard view))) :
    ∃ id session, task.target? = some id ∧
      (run client searchLimit (moves ++ [.step place deliveries])).registry.sessions id =
        some session ∧ view = session.view := by
  rw [run_concat, after_step found] at answered ⊢
  have inside := (List.getElem?_eq_some_iff.mp found).1
  exact Registry.step_answer pending
    (Option.some.inj ((List.getElem?_set_self inside).symm.trans answered))

/-- What makes all hosts of a session those of the state in its link. -/
theorem sources_match_iff {desk : Desk} {refresh : RefreshTicket} {data : Data}
    (reachable : desk.Reachable) (held : desk.origin.refresh = some (refresh, data))
    (settled : refresh.navigation = desk.session.navigation ↔ desk.Settled)
    (unmixed : ∀ source ∈ desk.origin.sources,
      desk.origin.refresh.map (·.1.navigation) = some source.1) :
    (∀ source ∈ desk.origin.sources, source.1 = desk.session.navigation) ↔
      desk.Settled ∨ desk.session.data.hosts = [] := by
  have hosts : desk.session.data.hosts = desk.origin.sources.map Prod.snd := by
    rw [Origin.map_snd_sources]
    exact reachable.accounted.hosts
  have same : ∀ source ∈ desk.origin.sources, refresh.navigation = source.1 := by
    intro source member
    have known := unmixed source member
    rw [held] at known
    exact Option.some.inj known
  constructor
  · intro fits
    cases shown : desk.origin.sources with
    | nil =>
      rw [hosts, shown]
      exact .inr rfl
    | cons source rest =>
      have member : source ∈ desk.origin.sources := by
        rw [shown]
        exact List.mem_cons_self
      exact .inl (settled.mp ((same source member).trans (fits source member)))
  · rintro (isSettled | none) source member
    · exact (same source member).symm.trans (settled.mpr isSettled)
    · rw [hosts, List.map_eq_nil_iff] at none
      rw [none] at member
      cases member

/-- **The link describes the results exactly if the desk is settled.** Whenever a step answers a page
whose hosts are ready, in any run: it is the page of its session after the step and displays the state
in the link, and its hosts are those of the refresh that was applied last and of the batches appended
since. That refresh was for the state in the link exactly if the desk is settled, and an open session
that is not settled is about to be refreshed. In a prudent run all hosts of the session were fetched for
the state in the link exactly if the desk is settled or there are no hosts. -/
theorem page_matches_link_iff_settled {moves : List Move} {place : Nat} {deliveries : List Delivery}
    {task : Task} {view : DashboardView}
    (found : (run client searchLimit moves).tasks[place]? = some task)
    (pending : task.answer? = none)
    (answered : (run client searchLimit (moves ++ [.step place deliveries])).tasks[place]? =
      some (.done (.dashboard view)))
    (ready : view.status.search = .ready) :
    let traffic := run client searchLimit (moves ++ [.step place deliveries])
    ∃ id desk, task.target? = some id ∧ traffic.desks id = some desk ∧
      traffic.registry.sessions id = some desk.session ∧ view = desk.session.view ∧
      view.Displays desk.session.navigation ∧
      desk.session.data.hosts = desk.origin.sources.map Prod.snd ∧
      desk.origin.Fetched client searchLimit ∧
      (∃ refresh data, desk.origin.refresh = some (refresh, data) ∧
        (refresh.navigation = desk.session.navigation ↔ desk.Settled)) ∧
      (traffic.registry.Closed id ∨ desk.Settled ∨ .refreshing id ∈ traffic.tasks) ∧
      (Prudent client searchLimit id {} (moves ++ [.step place deliveries]) →
        ((∀ source ∈ desk.origin.sources, source.1 = desk.session.navigation) ↔
          desk.Settled ∨ desk.session.data.hosts = [])) := by
  intro traffic
  have kept : traffic.Kept := kept_run client searchLimit (moves ++ [.step place deliveries])
  obtain ⟨id, session, target, there, rfl⟩ := session_of_page found pending answered
  obtain ⟨desk, held, rfl⟩ := Option.map_eq_some_iff.mp ((kept.sessions id).symm.trans there)
  have reachable := kept.reachable id desk held
  have isReady : desk.session.status.search = .ready := ready
  have current := reachable.accounted.settled (isReady ▸ nofun) (isReady ▸ nofun)
  obtain ⟨refresh, data, isRefresh, _, _, settled⟩ := reachable.current current
  refine ⟨id, desk, target, held, there, rfl, reachable.committed.displays, ?_, fetched_run held,
    ⟨refresh, data, isRefresh, settled⟩, kept.waiting id desk held, fun prudent => ?_⟩
  · rw [Origin.map_snd_sources]
    exact reachable.accounted.hosts
  · exact sources_match_iff reachable isRefresh settled
      fun source member => source_of_prudent prudent held member

theorem page_matches_link_loaded :
    let traffic := run .plain 50 (loading (.ofCountry "Germany") Delivery.oneHost)
    Prudent .plain 50 ⟨1⟩ {} (loading (.ofCountry "Germany") Delivery.oneHost) ∧
      ∃ view desk, traffic.tasks[0]? = some (.done (.dashboard view)) ∧
        view.status.search = .ready ∧ traffic.desks ⟨1⟩ = some desk ∧ view = desk.session.view ∧
          view.Displays (.ofCountry "Germany") ∧ desk.session.data.hosts = [.plain "a"] ∧
            ∀ source ∈ desk.origin.sources, source.1 = .ofCountry "Germany" := by
  intro traffic
  have prudent : Prudent .plain 50 ⟨1⟩ {} (loading (.ofCountry "Germany") Delivery.oneHost) :=
    ⟨nofun, nofun, nofun, nofun, trivial⟩
  obtain ⟨loaded, there, _, answered, navigation, data, status, _, _, settled⟩ :=
    run_loading .plain 50 (.ofCountry "Germany") Delivery.oneHost
  rw [Data.ofDeliveries_oneHost] at data status
  have ready : loaded.session.view.status.search = .ready := congrArg LoadStatus.search status
  have found : (run .plain 50 (opening (.ofCountry "Germany"))).tasks[0]? =
      some (.loading ⟨1⟩ ⟨1, .ofCountry "Germany"⟩) := rfl
  obtain ⟨id, desk, target, held, _, same, displays, _, _, _, _, fits⟩ :=
    page_matches_link_iff_settled found rfl answered ready
  cases Option.some.inj target
  cases Option.some.inj (held.symm.trans there)
  rw [navigation] at displays fits
  refine ⟨prudent, _, loaded, answered, ready, there, rfl, displays, ?_, ?_⟩
  · rw [data]
  · exact (fits prudent).mpr (.inl settled)

/-! ### A page that its link does not describe -/

/-- A session is being loaded when the state in its link changes, and the refresh that follows has not
begun when the results of the first one come back. -/
def crossing (first second : Navigation) (deliveries : List Delivery) : List Move :=
  [.call (.create ⟨1⟩ first), .step 0 [], .step 0 [], .call (.navigate ⟨1⟩ second), .step 1 [],
    .step 0 deliveries]

/-- The results of the first refresh are answered under the new link. -/
theorem run_crossing (client : Client) (searchLimit : Nat) (first second : Navigation)
    (deliveries : List Delivery) :
    let traffic := run client searchLimit (crossing first second deliveries)
    let data := Data.ofDeliveries client first searchLimit deliveries
    ∃ desk, traffic.desks ⟨1⟩ = some desk ∧
      traffic.tasks[0]? = some (.done (.dashboard (.of second data
        (({} : Pager).reset.sync data.hosts.length) (.ofSelections second.selections)
          data.status))) ∧
        desk.origin = { refresh := some (⟨1, first⟩, data) } :=
  ⟨_, rfl, rfl, rfl⟩

/-- German hosts under a link to the French ones. -/
theorem page_of_another_query :
    let traffic := run .plain 50
      (crossing (.ofCountry "Germany") (.ofCountry "France") Delivery.oneHost)
    ∃ view desk, traffic.tasks[0]? = some (.done (.dashboard view)) ∧
      traffic.desks ⟨1⟩ = some desk ∧ view.status.search = .ready ∧
        view.href = "?countries=France" ∧ view.results.hosts = [.plain "a"] ∧
          desk.origin.sources = [(.ofCountry "Germany", .plain "a")] := by
  intro traffic
  obtain ⟨desk, there, answered, origin⟩ :=
    run_crossing .plain 50 (.ofCountry "Germany") (.ofCountry "France") Delivery.oneHost
  rw [Data.ofDeliveries_oneHost] at answered origin
  refine ⟨_, desk, answered, there, rfl, by decide +kernel, by decide +kernel, ?_⟩
  rw [origin]
  rfl

end Traffic

end HostDashboard
