/-
**A failed page is all or nothing, and its banner never outlives it.**

The data of a refresh are all or nothing when they come back. After that the load states, the banner and the
hosts change apart from each other, by refreshes that begin and by continuations that begin, succeed or fail.

* `Bannered` ties the five together: while there is a banner nothing is held, and the load states show a
  failure unless a refresh is on its way. What carries it is that a banner leaves no token: so no
  continuation begins under a banner, and none that is in flight belongs to it;
* every orderly step keeps it, if refreshes bring what was loaded (`bannered_outcome`);
* `banner_fits_page` says it of the page, with what loading marks as failed.
-/

import HostDashboard.Proofs.Api.Answer
import HostDashboard.Proofs.Dashboard.Data

namespace HostDashboard

/-- The data were made of some answers to the requests of a state. -/
def Data.LoadedFor (navigation : Navigation) (data : Data) : Prop :=
  ∃ client limit deliveries, data = ofDeliveries client navigation limit deliveries

theorem Data.LoadedFor.allOrNothing {navigation : Navigation} {data : Data}
    (loaded : data.LoadedFor navigation) : data.AllOrNothing := by
  obtain ⟨client, limit, deliveries, rfl⟩ := loaded
  exact ofDeliveries_allOrNothing client navigation limit deliveries

namespace Session

/-- Hosts, banner and load states fit together. -/
structure Bannered (session : Session) : Prop where
  empty : session.data.error.isSome →
    session.data.hosts = [] ∧ session.data.counts = {} ∧ session.data.nextPageToken = none
  shown : session.data.error.isSome → session.status = ⟨.loading, .loading⟩ ∨
    session.status.search = .failed ∨ session.status.facets = .failed
  facets : session.status.facets = .failed → session.data.error.isSome

theorem bannered_openAt (navigation : Navigation) : (openAt navigation).Bannered :=
  ⟨nofun, nofun, nofun⟩

/-- Under a banner there is nothing to go on with. -/
theorem Bannered.error_of_token {session : Session} (bannered : session.Bannered)
    {pageToken : String} (token : session.data.nextPageToken = some pageToken) :
    session.data.error = none := by
  refine Option.not_isSome_iff_eq_none.mp fun isBanner => ?_
  rw [(bannered.empty isBanner).2.2] at token
  cases token

theorem Bannered.facets_of_token {session : Session} (bannered : session.Bannered)
    {pageToken : String} (token : session.data.nextPageToken = some pageToken) :
    session.status.facets ≠ .failed := by
  intro failed
  have isBanner := bannered.facets failed
  rw [bannered.error_of_token token] at isBanner
  cases isBanner

/-- A session without a banner need only not show failed facets. -/
theorem bannered_of_none {session : Session} (none : session.data.error = none)
    (facets : session.status.facets ≠ .failed) : session.Bannered := by
  refine ⟨fun isBanner => ?_, fun isBanner => ?_, fun failed => absurd failed facets⟩ <;>
  · rw [none] at isBanner
    cases isBanner

/-- A continuation that fails changes nothing that was fetched, whether it is taken up or not. -/
theorem completeMore_error_data (session : Session) (ticket : MoreTicket) (message : String) :
    (session.completeMore ticket (.error message)).1.data = session.data := by
  have outcome := session.outcome (.completeMore ticket (.error message))
  change session.Outcome _ (session.completeMore ticket (.error message)).1 at outcome
  generalize (session.completeMore ticket (.error message)).1 = next at outcome ⊢
  cases outcome <;> rfl

end Session

namespace Desk

open Session (Bannered bannered_of_none)

variable {desk next : Desk}

/-- **Every orderly step keeps banner and page together**, if refreshes bring what is all or nothing. -/
theorem bannered_outcome (sound : desk.Sound) (bannered : desk.session.Bannered)
    {step : Session.Step} (brings : ∀ ticket data, step = .completeRefresh ticket data → data.AllOrNothing)
    (outcome : desk.Outcome step next) : next.session.Bannered := by
  cases outcome with
  | edited edit =>
    refine ⟨?_, ?_, ?_⟩
    · rw [Session.edit_data]
      exact bannered.empty
    · rw [Session.edit_data, Session.edit_status]
      exact bannered.shown
    · rw [Session.edit_data, Session.edit_status]
      exact bannered.facets
  | begun =>
    exact ⟨fun isBanner => ⟨(bannered.empty isBanner).1, (bannered.empty isBanner).2.1, rfl⟩,
      fun _ => .inl rfl, nofun⟩
  | @applied ticket out current data =>
    have whole := brings ticket data rfl
    refine ⟨whole.empty, fun isBanner => .inr ?_, fun failed => whole.isSome_error_iff.mpr ?_⟩
    · exact (whole.isSome_error_iff.mp isBanner).imp (Data.loaded_eq_failed_iff _).mpr
        (Data.loaded_eq_failed_iff _).mpr
    · exact .inr ((Data.loaded_eq_failed_iff _).mp failed)
  | overtaken out stale data => exact bannered
  | refused none => exact bannered
  | @handed ticket handed =>
    have token := ((desk.session.beginMore_eq_some_iff ticket).mp handed).2.2.1
    exact bannered_of_none (bannered.error_of_token token) (bannered.facets_of_token token)
  | @appended ticket out current inFlight hosts nextPageToken =>
    obtain ⟨_, _, _, _, token⟩ := sound.phase.of_continuation out current
    exact bannered_of_none (bannered.error_of_token token) (bannered.facets_of_token token)
  | @failed ticket out current inFlight message =>
    exact ⟨bannered.empty, fun _ => .inr (.inl rfl), bannered.facets⟩
  | dropped out other batch => exact bannered

theorem bannered_run {navigation : Navigation} {steps : List Session.Step}
    (orderly : (openAt navigation).Orderly steps)
    (loaded : ∀ ticket data, .completeRefresh ticket data ∈ steps →
      data.LoadedFor ticket.navigation) :
    ((openAt navigation).run steps).session.Bannered := by
  -- the tickets are carried along, because a banner is kept only while they fit the session
  have both : ((openAt navigation).run steps).Sound ∧
      ((openAt navigation).run steps).session.Bannered := by
    refine orderly.induction (motive := fun desk => desk.Sound ∧ desk.session.Bannered)
      ⟨sound_openAt navigation, Session.bannered_openAt navigation⟩ ?_
    intro desk step member ⟨sound, bannered⟩ allowed
    refine ⟨sound.outcome (Desk.outcome allowed), ?_⟩
    refine bannered_outcome sound bannered (fun ticket data same => ?_) (Desk.outcome allowed)
    exact (loaded ticket data (same ▸ member)).allOrNothing
  exact both.2

/-- **A failed page is all or nothing, and its banner never outlives it.** After every orderly run in which
refreshes bring what was loaded: under a banner there are no hosts, no markers, no counts and no token, and
the page is loading or shows a failure; failed facets have a banner, and a page that is ready has none.
Loading marks each part as failed exactly if its own request failed, and both if an autonomous system is
malformed. A continuation that fails leaves banner and hosts as they are. -/
theorem banner_fits_page {navigation : Navigation} {steps : List Session.Step}
    (orderly : (openAt navigation).Orderly steps)
    (loaded : ∀ ticket data, .completeRefresh ticket data ∈ steps →
      data.LoadedFor ticket.navigation) :
    let session := ((openAt navigation).run steps).session
    let view := session.view
    (view.error.isSome → session.data.hosts = [] ∧ view.results.hosts = [] ∧ view.map = [] ∧
        session.data.counts = {} ∧ view.results.nextPageToken = none ∧
          (view.status = ⟨.loading, .loading⟩ ∨ view.status.search = .failed ∨
            view.status.facets = .failed)) ∧
      (view.status.facets = .failed → view.error.isSome) ∧
      (view.status.search = .ready → view.status.facets = .ready → view.error = none) ∧
      (∀ client send state limit,
        let data := load (m := Id) client send state limit
        ((∃ shown ∈ state.selections.asns, ∃ failure, Asn.parse shown = .error failure) →
          data.searchFailed = true ∧ data.facetsFailed = true) ∧
        ((∀ shown ∈ state.selections.asns, ∃ number, Asn.parse shown = .ok number) →
          ∃ filter, state.filter = .ok filter ∧
            (data.searchFailed = true ↔
              ¬ (send (.search filter limit none)).Succeeds SearchResponse.ofDocument?) ∧
            (data.facetsFailed = true ↔ ¬ (send (.counts filter)).Succeeds Counts.ofAnswer?))) ∧
      ∀ ticket message, let failed := (session.completeMore ticket (.error message)).1
        failed.data.error = session.data.error ∧ failed.data.hosts = session.data.hosts := by
  intro session view
  have bannered : session.Bannered := bannered_run orderly loaded
  refine ⟨fun isBanner => ?_, bannered.facets, fun search facets => ?_, load_marks,
    fun ticket message => ?_⟩
  · obtain ⟨hosts, counts, token⟩ := bannered.empty isBanner
    refine ⟨hosts, ?_, ?_, counts, token, bannered.shown isBanner⟩
    · show session.pager.slice session.data.hosts = []
      rw [hosts, Pager.slice, List.take_nil, List.drop_nil]
    · show mapDots session.data.hosts = []
      rw [hosts]
      rfl
  · have noneFailed : ¬ view.error.isSome := by
      intro isBanner
      rcases bannered.shown isBanner with loading | failed | failed
      · have : LoadState.loading = .ready := (congrArg LoadStatus.search loading).symm.trans search
        cases this
      · cases failed.symm.trans search
      · cases failed.symm.trans facets
    exact Option.not_isSome_iff_eq_none.mp noneFailed
  · dsimp only
    rw [session.completeMore_error_data ticket message]
    exact ⟨rfl, rfl⟩

/-- What a refresh brings that finds a host but whose counts are lost. -/
def uncounted : Data :=
  .ofDeliveries .plain (.ofCountry "Germany") 50 (Delivery.oneHost.take 1 ++ [.lost "refused"])

theorem uncounted_eq :
    uncounted = .banner (Data.outage .plain (.transport "refused")) false true := by
  have built : (Navigation.ofCountry "Germany").filter = .ok _ := rfl
  unfold uncounted Data.ofDeliveries
  rw [built]
  show Data.ofResults .plain (Client.plain.result _ _ (.answered 200 _)) _ = _
  rw [Client.result_print read_oneHost]
  rfl

/-- A session is refreshed, and then another refresh begins. -/
def refreshing (navigation : Navigation) (data : Data) : List Session.Step :=
  [.beginRefresh, .completeRefresh ⟨1, navigation⟩ data, .beginRefresh]

theorem orderly_refreshing (navigation : Navigation) (data : Data) :
    (openAt navigation).Orderly (refreshing navigation data) :=
  ⟨trivial, List.mem_singleton_self _, trivial, trivial⟩

/-- A banner stays while the next refresh is on its way. -/
theorem error_refreshing (navigation : Navigation) (data : Data) :
    ((openAt navigation).run (refreshing navigation data)).session.view.error = data.error :=
  rfl

theorem banner_fits_uncounted :
    let opened := openAt (.ofCountry "Germany")
    let steps := refreshing (.ofCountry "Germany") uncounted
    opened.Orderly steps ∧
      (∀ ticket data, .completeRefresh ticket data ∈ steps → data.LoadedFor ticket.navigation) ∧
      (opened.run steps).session.view.error.isSome ∧
      (opened.run steps).session.data.hosts = [] := by
  intro opened steps
  have orderly : opened.Orderly steps := orderly_refreshing _ _
  have loaded : ∀ ticket data, .completeRefresh ticket data ∈ steps →
      data.LoadedFor ticket.navigation := by
    intro ticket data member
    simp only [steps, refreshing, List.mem_cons, Session.Step.completeRefresh.injEq, reduceCtorEq,
      false_or, or_false, List.not_mem_nil] at member
    rw [member.1, member.2]
    exact ⟨.plain, 50, _, rfl⟩
  have banner : (opened.run steps).session.view.error.isSome := by
    rw [error_refreshing, uncounted_eq]
    rfl
  exact ⟨orderly, loaded, banner, ((banner_fits_page orderly loaded).1 banner).1⟩

end Desk

end HostDashboard
