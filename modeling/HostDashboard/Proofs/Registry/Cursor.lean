/-
**Which state a continuation is for.**

A continuation carries a token, which belongs to the results of a refresh, and the state that is in the
link when it begins. The state in the link changes in one locked step of an operation and the refresh that
follows begins in another, and between the two a continuation of another operation may begin. Its token
belongs to the results for the old state then, and it asks with the new one.

* `cursor_matches_query_iff_settled` says that this is the only way in which token and state can differ:
  they fit exactly if the desk is settled, and an open session that is not settled is about to be
  refreshed;
* `Prudent` says of a run that no continuation of a session is handed out in such a moment. After a
  prudent run all hosts of the session are of one state (`source_of_prudent`);
* `cursor_of_another_query` is about a run that is not prudent: the hosts of two states stand side by side.
-/

import HostDashboard.Proofs.Api.Answer
import HostDashboard.Proofs.Registry.Traffic

namespace HostDashboard

/-- What an origin holds was answered to requests for the states on its tickets. -/
structure Origin.Fetched (client : Client) (searchLimit : Nat) (origin : Origin) : Prop where
  refresh : ∀ ticket data, origin.refresh = some (ticket, data) → ∃ deliveries,
    data = Data.ofDeliveries client ticket.navigation searchLimit deliveries
  appended : ∀ batch ∈ origin.appended, ∃ deliveries,
    Registry.batch client searchLimit batch.ticket deliveries =
      .ok (batch.hosts, batch.nextPageToken)

theorem Origin.Fetched.outcome {client : Client} {searchLimit : Nat} {desk next : Desk}
    (fetched : desk.origin.Fetched client searchLimit) {step : Session.Step}
    (brings : step.Fetched client searchLimit) (outcome : desk.Outcome step next) :
    next.origin.Fetched client searchLimit := by
  cases outcome with
  | @applied ticket out current data =>
    refine ⟨fun other held same => ?_, fun _ member => absurd member List.not_mem_nil⟩
    cases same
    exact brings
  | @appended ticket out current inFlight hosts nextPageToken =>
    refine ⟨fetched.refresh, fun batch member => ?_⟩
    rcases List.mem_append.mp member with old | new
    · exact fetched.appended batch old
    · obtain ⟨deliveries, found⟩ := brings
      rw [List.mem_singleton.mp new]
      exact ⟨deliveries, found.symm⟩
  | handed handed => exact ⟨fetched.refresh, fetched.appended⟩
  | _ => exact fetched

namespace Traffic

variable {client : Client} {searchLimit : Nat}

/-- **All that a session holds was answered to requests for the states on its tickets.** -/
theorem fetched_run {moves : List Move} {id : SessionId} {desk : Desk}
    (there : (run client searchLimit moves).desks id = some desk) :
    desk.origin.Fetched client searchLimit := by
  refine desk_induction (motive := fun desk => desk.origin.Fetched client searchLimit) there
    (fun _ => ⟨nofun, fun _ member => absurd member List.not_mem_nil⟩) ?_
  intro desk step _ fetched allowed brings
  exact fetched.outcome brings (Desk.outcome allowed)

/-! ### Prudent runs -/

/-- No continuation of a session is handed out while its results are not for the state in its link. -/
def Prudent (client : Client) (searchLimit : Nat) (id : SessionId) (traffic : Traffic) :
    List Move → Prop
  | [] => True
  | move :: rest =>
    (traffic.Begins id move → ∀ desk ∈ traffic.desks id, desk.session.beginMore.2.isSome →
      desk.Settled) ∧
      Prudent client searchLimit id (traffic.after client searchLimit move) rest

instance (traffic : Traffic) (id : SessionId) : (move : Move) → Decidable (traffic.Begins id move)
  | .step place _ => inferInstanceAs (Decidable (traffic.tasks[place]? = _))
  | .call _ => .isFalse nofun
  | .elapse _ => .isFalse nofun
  | .evictIdle _ => .isFalse nofun

instance decidablePrudent (id : SessionId) : (traffic : Traffic) → (moves : List Move) →
    Decidable (Prudent client searchLimit id traffic moves)
  | _, [] => .isTrue trivial
  | traffic, move :: rest =>
    have := decidablePrudent id (traffic.after client searchLimit move) rest
    inferInstanceAs (Decidable (_ ∧ _))

/-- Nothing gets mixed from any traffic on in which nothing is mixed yet. -/
theorem unmixed_from {moves : List Move} {id : SessionId} {traffic : Traffic} (kept : traffic.Kept)
    (known : ∀ desk, traffic.desks id = some desk → desk.origin.Unmixed)
    (prudent : Prudent client searchLimit id traffic moves) {desk : Desk}
    (there : (moves.foldl (Traffic.after client searchLimit) traffic).desks id = some desk) :
    desk.origin.Unmixed := by
  induction moves generalizing traffic with
  | nil => exact known desk there
  | cons move rest ih =>
    refine ih (kept.after client searchLimit move) (fun desk there => ?_) prudent.2 there
    rcases kept.desk_after there with held | ⟨navigation, rfl⟩ |
      ⟨before, step, held, rfl, allowed, _, begins⟩
    · exact known desk held
    · exact Desk.unmixed_openAt navigation
    · refine (kept.reachable id before held).unmixed_outcome (known before held) ?_
        (Desk.outcome allowed)
      exact fun begin handed => prudent.1 (begins begin) before held handed

/-- **After a prudent run nothing is mixed**: every host is of the state of the refresh that was applied
last. -/
theorem source_of_prudent {moves : List Move} {id : SessionId} {desk : Desk}
    (prudent : Prudent client searchLimit id {} moves)
    (there : (run client searchLimit moves).desks id = some desk) {source : Navigation × Host}
    (member : source ∈ desk.origin.sources) :
    desk.origin.refresh.map (·.1.navigation) = some source.1 := by
  have unmixed := unmixed_from kept_initial (fun _ there => by cases there) prudent there
  exact unmixed.source ((kept_run client searchLimit moves).reachable id desk there).accounted.inOrder
    member

/-- **The token of a continuation fits its state exactly if the desk is settled.** After every run, for
every session: a continuation that begins now goes on with the results of the refresh that was applied
last, and it is for the same state as that refresh exactly if the desk is settled; an open session that
is not settled is about to be refreshed; and after a prudent run all hosts that the session holds were
fetched for the state of that refresh. -/
theorem cursor_matches_query_iff_settled {moves : List Move} {id : SessionId} {session : Session}
    (there : (run client searchLimit moves).registry.sessions id = some session) :
    ∃ desk, (run client searchLimit moves).desks id = some desk ∧ desk.session = session ∧
      (∀ ticket, session.beginMore.2 = some ticket → ∃ refresh data,
        desk.origin.refresh = some (refresh, data) ∧ refresh.generation = ticket.generation ∧
          desk.origin.lastToken = some ticket.pageToken ∧
            (ticket.navigation = refresh.navigation ↔ desk.Settled)) ∧
      ((run client searchLimit moves).registry.Closed id ∨ desk.Settled ∨
        .refreshing id ∈ (run client searchLimit moves).tasks) ∧
      session.data.hosts = desk.origin.sources.map Prod.snd ∧
      desk.origin.Fetched client searchLimit ∧
      (Prudent client searchLimit id {} moves → ∀ source ∈ desk.origin.sources,
        desk.origin.refresh.map (·.1.navigation) = some source.1) := by
  have kept := kept_run client searchLimit moves
  rw [kept.sessions] at there
  obtain ⟨desk, held, rfl⟩ := Option.map_eq_some_iff.mp there
  have reachable := kept.reachable id desk held
  refine ⟨desk, held, rfl, fun ticket handed => reachable.continuation handed,
    kept.waiting id desk held, ?_, fetched_run held,
    fun prudent source member => source_of_prudent prudent held member⟩
  rw [Origin.map_snd_sources]
  exact reachable.accounted.hosts

/-- A session is opened, and its first refresh begins. -/
def opening (navigation : Navigation) : List Move :=
  [.call (.create ⟨1⟩ navigation), .step 0 [], .step 0 []]

def loading (navigation : Navigation) (deliveries : List Delivery) : List Move :=
  opening navigation ++ [.step 0 deliveries]

/-- A session is loaded and then asked for more. -/
def continuing (navigation : Navigation) (deliveries : List Delivery) : List Move :=
  loading navigation deliveries ++ [.call (.more ⟨1⟩), .step 1 []]

/-- A session that has been loaded has its data and is answered, and its desk is settled. -/
theorem run_loading (client : Client) (searchLimit : Nat) (navigation : Navigation)
    (deliveries : List Delivery) :
    let traffic := run client searchLimit (loading navigation deliveries)
    let data := Data.ofDeliveries client navigation searchLimit deliveries
    ∃ desk, traffic.desks ⟨1⟩ = some desk ∧ traffic.registry.sessions ⟨1⟩ = some desk.session ∧
      traffic.tasks[0]? = some (.done (.dashboard desk.session.view)) ∧
        desk.session.navigation = navigation ∧ desk.session.data = data ∧
          desk.session.status = data.status ∧ desk.session.inFlight = none ∧
            desk.session.generation = 1 ∧ desk.Settled :=
  ⟨_, rfl, rfl, rfl, rfl, rfl, rfl, rfl, rfl, rfl⟩

theorem prudent_continuing (client : Client) (searchLimit : Nat) (navigation : Navigation)
    (deliveries : List Delivery) :
    Prudent client searchLimit ⟨1⟩ {} (continuing navigation deliveries) := by
  refine ⟨nofun, nofun, nofun, nofun, nofun, fun _ desk there _ => ?_, trivial⟩
  obtain ⟨loaded, same, _, _, _, _, _, _, _, settled⟩ :=
    run_loading client searchLimit navigation deliveries
  have equal : some desk = some loaded := there.symm.trans same
  rw [Option.some.inj equal]
  exact settled

theorem cursor_matches_query_loaded :
    let loaded := run .plain 50 (loading (.ofCountry "Germany") Delivery.oneHost)
    let continued := run .plain 50 (continuing (.ofCountry "Germany") Delivery.oneHost)
    (∃ desk refresh data, loaded.desks ⟨1⟩ = some desk ∧
      loaded.registry.sessions ⟨1⟩ = some desk.session ∧
        desk.session.beginMore.2 = some ⟨1, .ofCountry "Germany", "t"⟩ ∧
          desk.origin.refresh = some (refresh, data) ∧ desk.origin.lastToken = some "t" ∧
            refresh.navigation = .ofCountry "Germany") ∧
      Prudent .plain 50 ⟨1⟩ {} (continuing (.ofCountry "Germany") Delivery.oneHost) ∧
        ∃ desk, continued.desks ⟨1⟩ = some desk ∧
          continued.registry.sessions ⟨1⟩ = some desk.session ∧
            ∀ source ∈ desk.origin.sources,
              desk.origin.refresh.map (·.1.navigation) = some source.1 := by
  intro loaded continued
  have prudent := prudent_continuing .plain 50 (.ofCountry "Germany") Delivery.oneHost
  refine ⟨?_, prudent, ?_⟩
  · obtain ⟨desk, held, there, _, navigation, data, status, inFlight, generation, settled⟩ :=
      run_loading .plain 50 (.ofCountry "Germany") Delivery.oneHost
    rw [Data.ofDeliveries_oneHost] at data status
    have handed := desk.session.beginMore_of_token (by rw [status]; exact nofun) inFlight
      (congrArg Data.nextPageToken data)
    rw [generation, navigation] at handed
    obtain ⟨same, heldToo, _, cursor, _⟩ := cursor_matches_query_iff_settled there
    rw [held] at heldToo
    cases heldToo
    obtain ⟨refresh, data, isRefresh, _, token, fits⟩ := cursor _ handed
    exact ⟨desk, refresh, data, held, there, handed, isRefresh, token, (fits.mpr settled).symm⟩
  · obtain ⟨desk, held⟩ : ∃ desk, continued.desks ⟨1⟩ = some desk := ⟨_, rfl⟩
    have there : continued.registry.sessions ⟨1⟩ = some desk.session := by
      rw [(kept_run _ _ _).sessions, held]
      rfl
    obtain ⟨same, heldToo, _, _, _, _, _, unmixed⟩ := cursor_matches_query_iff_settled there
    rw [held] at heldToo
    cases heldToo
    exact ⟨desk, held, there, unmixed prudent⟩

/-! ### A run that is not prudent -/

/-- A session is opened and loaded. Then the state in its link changes, and the refresh that follows has
not begun. -/
def overtaking (first second : Navigation) (deliveries : List Delivery) : List Move :=
  loading first deliveries ++ [.call (.navigate ⟨1⟩ second), .step 1 []]

/-- In such a moment the session has the new state and the data for the old one. -/
theorem run_overtaking (client : Client) (searchLimit : Nat) (first second : Navigation)
    (deliveries : List Delivery) :
    let traffic := run client searchLimit (overtaking first second deliveries)
    let data := Data.ofDeliveries client first searchLimit deliveries
    ∃ desk, traffic.desks ⟨1⟩ = some desk ∧ traffic.registry.session? ⟨1⟩ = some desk.session ∧
      desk.session.navigation = second ∧ desk.session.data = data ∧
        desk.session.status = data.status ∧ desk.session.inFlight = none ∧
          desk.session.generation = 1 ∧ desk.origin = { refresh := some (⟨1, first⟩, data) } :=
  ⟨_, rfl, rfl, rfl, rfl, rfl, rfl, rfl, rfl⟩

/-- An open session whose results can be continued hands out a continuation when it is asked for more. -/
theorem after_more {traffic : Traffic} {id : SessionId} {desk : Desk} {ticket : MoreTicket}
    (there : traffic.desks id = some desk)
    (found : traffic.registry.session? id = some desk.session)
    (handed : desk.session.beginMore.2 = some ticket) :
    let next := (traffic.after client searchLimit (.call (.more id))).after client searchLimit
      (.step traffic.tasks.length [])
    next.desks id = some (desk.after .beginMore) ∧
      next.tasks[traffic.tasks.length]? = some (.continuing id ticket) := by
  intro next
  have asked : (traffic.after client searchLimit (.call (.more id))).tasks[traffic.tasks.length]? =
      some (.start (.more id)) := List.getElem?_concat_length
  have own : (Operation.more id).step? = some (id, .beginMore) := rfl
  have taken : next = _ := after_step asked
  rw [taken]
  constructor
  · show Moment.record .openAt Desk.after traffic.desks (traffic.registry.moment? client searchLimit []
      (.start (.more id))) id = _
    rw [Registry.moment?_start_of_some own found, Moment.record, if_pos rfl, there]
    rfl
  · have left : (traffic.registry.step client searchLimit [] (.start (.more id))).2 =
        .continuing id ticket := by
      rw [Registry.step, Registry.start, Registry.withSession_of_some found, handed]
    show ((traffic.tasks ++ [_]).set traffic.tasks.length
      (traffic.registry.step client searchLimit [] (.start (.more id))).2)[traffic.tasks.length]? = _
    rw [left]
    exact List.getElem?_set_self (by simp)

theorem desks_after_continuing {traffic : Traffic} {id : SessionId} {desk : Desk} {place : Nat}
    {ticket : MoreTicket} (there : traffic.desks id = some desk)
    (found : traffic.tasks[place]? = some (.continuing id ticket)) (deliveries : List Delivery) :
    (traffic.after client searchLimit (.step place deliveries)).desks id =
      some (desk.after (.completeMore ticket
        (Registry.batch client searchLimit ticket deliveries))) := by
  rw [after_step found]
  show Moment.record .openAt Desk.after traffic.desks (some (id, .stepped _)) id = _
  rw [Moment.record, if_pos rfl, there]
  rfl

/-- The desk after a continuation has been handed out and has brought a batch. -/
theorem origin_after_batch {desk : Desk} {ticket : MoreTicket}
    (handed : desk.session.beginMore.2 = some ticket) (hosts : List Host)
    (nextPageToken : Option String) :
    ((desk.after .beginMore).after (.completeMore ticket (.ok (hosts, nextPageToken)))).origin =
      (desk.origin.ask ticket).take ticket (.ok (hosts, nextPageToken)) := by
  have current := ((desk.session.beginMore_eq_some_iff ticket).mp handed).2.2.2.1
  have taken : ((desk.after .beginMore).session.completeMore ticket
      (.ok (hosts, nextPageToken))).2 = true := by
    rw [Session.completeMore_taken_iff, Desk.after_session, Session.after,
      Session.beginMore_of_some _ handed]
    exact ⟨current, rfl⟩
  have asked : (desk.after .beginMore).origin = desk.origin.ask ticket := by
    rw [Desk.after, handed]
  rw [← asked]
  show (if ((desk.after .beginMore).session.completeMore ticket (.ok (hosts, nextPageToken))).2 then
      (desk.after .beginMore).origin.take ticket (.ok (hosts, nextPageToken))
    else (desk.after .beginMore).origin) = _
  rw [taken, if_pos rfl]

/-- The token of the German hosts is asked for with the state of the French ones, and what comes back
stands among the German hosts. -/
theorem cursor_of_another_query :
    let early := overtaking (.ofCountry "Germany") (.ofCountry "France") Delivery.oneHost
    let late := early ++ [.call (.more ⟨1⟩), .step 2 [], .step 2 (Delivery.oneHost.take 1)]
    (∃ desk data, (run .plain 50 early).desks ⟨1⟩ = some desk ∧
      (run .plain 50 early).registry.session? ⟨1⟩ = some desk.session ∧
        desk.session.beginMore.2 = some ⟨1, .ofCountry "France", "t"⟩ ∧
          desk.origin.refresh = some (⟨1, .ofCountry "Germany"⟩, data) ∧
            data.nextPageToken = some "t") ∧
      ∃ desk, (run .plain 50 late).desks ⟨1⟩ = some desk ∧
        desk.session.data.hosts = [.plain "a", .plain "a"] ∧
          desk.origin.sources =
            [(.ofCountry "Germany", .plain "a"), (.ofCountry "France", .plain "a")] := by
  intro early late
  obtain ⟨desk, there, found, navigation, data, status, inFlight, generation, origin⟩ :=
    run_overtaking .plain 50 (.ofCountry "Germany") (.ofCountry "France") Delivery.oneHost
  rw [Data.ofDeliveries_oneHost] at data status origin
  have handed := desk.session.beginMore_of_token (by rw [status]; exact nofun) inFlight
    (congrArg Data.nextPageToken data)
  rw [generation, navigation] at handed
  refine ⟨⟨desk, _, there, found, handed, congrArg Origin.refresh origin, rfl⟩, ?_⟩
  have held : (run .plain 50 late).desks ⟨1⟩ = some ((desk.after .beginMore).after
      (.completeMore ⟨1, .ofCountry "France", "t"⟩ (.ok ([.plain "a"], some "t")))) := by
    obtain ⟨asked, waits⟩ := after_more there found handed
    rw [← Registry.batch_oneHost "France" "t" 1 50]
    exact desks_after_continuing asked waits (Delivery.oneHost.take 1)
  have sources := congrArg Origin.sources (origin_after_batch handed [.plain "a"] (some "t"))
  refine ⟨_, held, ?_, ?_⟩
  · have hosts := ((kept_run .plain 50 late).reachable ⟨1⟩ _ held).accounted.hosts
    rw [← Origin.map_snd_sources, sources, origin] at hosts
    exact hosts
  · rw [sources, origin]
    rfl

end Traffic

end HostDashboard
