/-
**Where the hosts of a session come from.**

Whatever overlaps, fails, is tried again or overtaken, a session holds the hosts of the refresh that was
applied last, and after them those of the batches that were appended since, in the order in which they
were asked for. Each batch was asked for with the token that the one before it left.

* `Chained` says that tokens are handed on from batch to batch;
* `Accounted` ties the session to its record; what carries it is that a session holds a token only if the
  token came last and belongs to the current generation (`Accounted.token`);
* `hosts_follow_tokens` is the statement about all orderly runs, with the batches that are dropped and
  what a failed continuation leaves.
-/

import HostDashboard.Proofs.Session.Phase

namespace HostDashboard

def Host.plain (id : String) : Host where
  id
  ip := id
  ipNumber := 0
  asn := ⟨64500, "Org", "Testland"⟩
  location := ⟨⟨0⟩, ⟨0⟩, "City", "UTC"⟩
  firstSeen := ⟨0, 0⟩
  lastSeen := ⟨0, 0⟩
  services := []

/-- Every batch was asked for with the token that came before it. -/
def Chained : Option String → List AppendedBatch → Prop
  | _, [] => True
  | token, batch :: rest => token = some batch.ticket.pageToken ∧ Chained batch.nextPageToken rest

theorem Chained.concat {token : Option String} {batches : List AppendedBatch}
    (chained : Chained token batches) {batch : AppendedBatch}
    (next : batches.foldl (fun _ batch => batch.nextPageToken) token = some batch.ticket.pageToken) :
    Chained token (batches ++ [batch]) := by
  induction batches generalizing token with
  | nil => exact ⟨next, trivial⟩
  | cons first rest ih => exact ⟨chained.1, ih chained.2 next⟩

namespace Origin

variable (origin : Origin) (ticket : MoreTicket) (hosts : List Host) (nextPageToken : Option String)

theorem hosts_take_ok :
    (origin.take ticket (.ok (hosts, nextPageToken))).hosts = origin.hosts ++ hosts := by
  unfold Origin.hosts take
  rw [List.flatMap_append, List.flatMap_singleton, List.append_assoc]

theorem lastToken_take_ok :
    (origin.take ticket (.ok (hosts, nextPageToken))).lastToken = nextPageToken := by
  unfold lastToken take
  rw [List.foldl_append]
  rfl

end Origin

namespace Desk

/-- The record accounts for what the session holds. -/
structure Accounted (desk : Desk) : Prop where
  hosts : desk.session.data.hosts = desk.origin.hosts
  chained : Chained desk.origin.firstToken desk.origin.appended
  /-- The batches were appended in the order in which they were asked for, each for one request. -/
  inOrder : (desk.origin.appended.map AppendedBatch.ticket).Sublist desk.origin.asked
  /-- The current continuation that is out was asked for last, and brought nothing yet. -/
  waiting : ∀ ticket ∈ desk.currentContinuations, ∃ before,
    desk.origin.asked = before ++ [ticket] ∧
      (desk.origin.appended.map AppendedBatch.ticket).Sublist before
  /-- What was asked for since the refresh continues that refresh. -/
  asked : ∀ ticket ∈ desk.origin.asked, desk.origin.generation? = some ticket.generation
  /-- A token that the session holds came last, and with the current generation. -/
  token : ∀ pageToken, desk.session.data.nextPageToken = some pageToken →
    desk.origin.generation? = some desk.session.generation ∧
      desk.origin.lastToken = some pageToken
  /-- Hosts that are neither awaited nor missing from the start are of the current generation. -/
  settled : desk.session.status.search ≠ .idle → desk.session.status.search ≠ .loading →
    desk.origin.generation? = some desk.session.generation

variable {desk next : Desk}

theorem accounted_openAt (navigation : Navigation) : (openAt navigation).Accounted where
  hosts := rfl
  chained := trivial
  inOrder := .slnil
  waiting := fun _ member => absurd member List.not_mem_nil
  asked := fun _ member => absurd member List.not_mem_nil
  token := nofun
  settled := fun notIdle => absurd rfl notIdle

namespace Accounted

variable (accounted : desk.Accounted)

include accounted

theorem edited (edit : Edit) : Accounted { desk with session := desk.session.edit edit } := by
  refine ⟨?_, accounted.chained, accounted.inOrder, ?_, accounted.asked, ?_, ?_⟩
  · rw [Session.edit_data]
    exact accounted.hosts
  · unfold currentContinuations
    rw [Session.edit_generation]
    exact accounted.waiting
  · rw [Session.edit_data, Session.edit_generation]
    exact accounted.token
  · rw [Session.edit_status, Session.edit_generation]
    exact accounted.settled

/-- A new refresh takes the token away, and makes every continuation that is out an old one. -/
theorem begun (sound : desk.Sound) : Accounted
    { desk with
      session := desk.session.beginRefresh.1
      refreshes := desk.refreshes ++ [desk.session.beginRefresh.2]
      latest := some desk.session.beginRefresh.2 } where
  hosts := accounted.hosts
  chained := accounted.chained
  inOrder := accounted.inOrder
  waiting := fun ticket member => by
    obtain ⟨out, current⟩ := mem_currentContinuations.mp member
    have old := sound.continuations_le ticket out
    have new : ticket.generation = desk.session.generation + 1 := current
    omega
  asked := accounted.asked
  token := nofun
  settled := fun _ notLoading => absurd rfl notLoading

/-- A continuation is handed out with the last token, and is waited for from then on. -/
theorem handed (sound : desk.Sound) {ticket : MoreTicket}
    (handed : desk.session.beginMore.2 = some ticket) : Accounted
    { desk with
      session := { desk.session with
        inFlight := some ticket.pageToken
        status := { desk.session.status with search := .loading } }
      continuations := desk.continuations ++ [ticket]
      origin := desk.origin.ask ticket } := by
  obtain ⟨notLoading, _, token, generation, _⟩ :=
    (desk.session.beginMore_eq_some_iff ticket).mp handed
  have noneOut := (sound.phase.of_notLoading notLoading).2.1
  refine ⟨accounted.hosts, accounted.chained, ?_, fun other member => ?_, fun other member => ?_,
    accounted.token, fun _ notLoading => absurd rfl notLoading⟩
  · exact List.sublist_append_of_sublist_left accounted.inOrder
  · obtain ⟨out, current⟩ := mem_currentContinuations.mp member
    rcases List.mem_append.mp out with old | new
    · have isCurrent := mem_currentContinuations.mpr ⟨old, current⟩
      rw [noneOut] at isCurrent
      cases isCurrent
    · rw [List.mem_singleton.mp new]
      exact ⟨desk.origin.asked, rfl, accounted.inOrder⟩
  · rcases List.mem_append.mp member with old | new
    · exact accounted.asked other old
    · rw [List.mem_singleton.mp new, generation]
      exact (accounted.token _ token).1

/-- The batch of the continuation in flight goes to the end of the chain. -/
theorem appended (sound : desk.Sound) {ticket : MoreTicket} (out : ticket ∈ desk.continuations)
    (current : ticket.generation = desk.session.generation) (hosts : List Host)
    (nextPageToken : Option String) {session : Session}
    (generation : session.generation = desk.session.generation)
    (holds : session.data =
      { desk.session.data with hosts := desk.session.data.hosts ++ hosts, nextPageToken }) :
    Accounted
      { desk with
        session
        continuations := desk.continuations.erase ticket
        origin := desk.origin.take ticket (.ok (hosts, nextPageToken)) } := by
  obtain ⟨_, continuations, _, _, token⟩ := sound.phase.of_continuation out current
  -- its token is still the one that the session holds, so it is the last one of the chain
  obtain ⟨ofCurrent, last⟩ := accounted.token _ token
  obtain ⟨before, asked, inOrder⟩ :=
    accounted.waiting ticket (mem_currentContinuations.mpr ⟨out, current⟩)
  refine ⟨?_, accounted.chained.concat last, ?_, fun other member => ?_, accounted.asked, ?_, ?_⟩
  · rw [Origin.hosts_take_ok, ← accounted.hosts, holds]
  · show ((desk.origin.appended ++ [_]).map AppendedBatch.ticket).Sublist desk.origin.asked
    rw [List.map_append, asked]
    exact inOrder.append_right _
  -- no other continuation of this generation can be out
  · have gone := filter_erase_of_singleton continuations
    unfold currentContinuations at member
    rw [generation, gone] at member
    cases member
  · intro pageToken held
    rw [generation, Origin.lastToken_take_ok]
    rw [holds] at held
    exact ⟨ofCurrent, held⟩
  · rw [generation]
    exact fun _ _ => ofCurrent

/-- **Every step keeps the record and the session together.** -/
theorem outcome (sound : desk.Sound) {step : Session.Step} (outcome : desk.Outcome step next) :
    next.Accounted := by
  cases outcome with
  | edited edit => exact accounted.edited edit
  | begun => exact accounted.begun sound
  | @applied ticket out current data =>
    have continuations := (sound.phase.of_refresh out current).2.1
    refine ⟨(List.append_nil _).symm, trivial, .slnil, fun other member => ?_,
      fun _ member => absurd member List.not_mem_nil, fun pageToken held => ?_, fun _ _ => ?_⟩
    · have isCurrent : other ∈ desk.currentContinuations := member
      rw [continuations] at isCurrent
      cases isCurrent
    · exact ⟨congrArg some current, held⟩
    · exact congrArg some current
  | overtaken out stale data =>
    exact ⟨accounted.hosts, accounted.chained, accounted.inOrder, accounted.waiting, accounted.asked,
      accounted.token, accounted.settled⟩
  | refused none => exact accounted
  | handed handed => exact accounted.handed sound handed
  | appended out current inFlight hosts nextPageToken =>
    exact accounted.appended sound out current hosts nextPageToken rfl rfl
  | @failed ticket out current inFlight message =>
    obtain ⟨_, continuations, _, _, token⟩ := sound.phase.of_continuation out current
    refine ⟨accounted.hosts, accounted.chained, accounted.inOrder, fun other member => ?_,
      accounted.asked, accounted.token, fun _ _ => (accounted.token _ token).1⟩
    have isLeft : other ∈ (desk.continuations.erase ticket).filter
        (fun ticket => ticket.generation = desk.session.generation) := member
    rw [filter_erase_of_singleton continuations] at isLeft
    cases isLeft
  | @dropped ticket out other batch =>
    refine ⟨accounted.hosts, accounted.chained, accounted.inOrder, fun other member => ?_,
      accounted.asked, accounted.token, accounted.settled⟩
    obtain ⟨out, current⟩ := mem_currentContinuations.mp member
    exact accounted.waiting other
      (mem_currentContinuations.mpr ⟨List.mem_of_mem_erase out, current⟩)

end Accounted

/-- **In every orderly run the record accounts for the session.** -/
theorem Reachable.accounted (reachable : desk.Reachable) : desk.Accounted :=
  reachable.induction accounted_openAt fun _ _ reachable accounted allowed =>
    accounted.outcome reachable.sound (Desk.outcome allowed)

/-- Every batch that was appended continues the refresh that was applied last. -/
theorem Accounted.appended_generation (accounted : desk.Accounted) {batch : AppendedBatch}
    (member : batch ∈ desk.origin.appended) :
    desk.origin.generation? = some batch.ticket.generation :=
  accounted.asked _ (accounted.inOrder.subset (List.mem_map_of_mem member))

/-! ### Continuations that fail -/

/-- A continuation that fails leaves everything but the load state as it was, and the next one asks for
the same token. -/
theorem Sound.retry (sound : desk.Sound) {ticket : MoreTicket} {message : String}
    (taken : (desk.session.completeMore ticket (.error message)).2 = true) :
    let failed := (desk.session.completeMore ticket (.error message)).1
    failed.data = desk.session.data ∧ failed.pager = desk.session.pager ∧
      failed.navigation = desk.session.navigation ∧ failed.panel = desk.session.panel ∧
      failed.generation = desk.session.generation ∧
      failed.beginMore.2 =
        some ⟨desk.session.generation, desk.session.navigation, ticket.pageToken⟩ := by
  obtain ⟨current, inFlight⟩ := (desk.session.completeMore_taken_iff ticket _).mp taken
  have token : desk.session.data.nextPageToken = some ticket.pageToken := by
    cases sound.phase with
    | resting _ _ _ _ notInFlight =>
      rw [notInFlight] at inFlight
      cases inFlight
    | refreshing _ _ _ _ notInFlight =>
      rw [notInFlight] at inFlight
      cases inFlight
    | continuing other _ _ _ _ same token => rw [token, ← same, inFlight]
  rw [desk.session.completeMore_failed current inFlight]
  exact ⟨rfl, rfl, rfl, rfl, rfl, Session.beginMore_of_token _ nofun rfl token⟩

/-- **The hosts follow the tokens.** After every orderly run of a session that was opened anywhere: the
hosts are those of the refresh that was applied last and of the batches appended since; the batches
were asked for in that order, each by a request of its own; each request carried the token that came
before it, and the generation of the refresh. A batch of another generation than the session's is never
appended, not even while the hosts of that generation are still there. A continuation that fails changes
none of this, and the next one asks for the same token again. -/
theorem hosts_follow_tokens {navigation : Navigation} {steps : List Session.Step}
    (orderly : (openAt navigation).Orderly steps) :
    let desk := (openAt navigation).run steps
    desk.session.data.hosts = desk.origin.hosts ∧
      Chained desk.origin.firstToken desk.origin.appended ∧
      (desk.origin.appended.map AppendedBatch.ticket).Sublist desk.origin.asked ∧
      (∀ batch ∈ desk.origin.appended,
        desk.origin.generation? = some batch.ticket.generation) ∧
      (∀ ticket batch, ticket.generation ≠ desk.session.generation →
        desk.session.completeMore ticket batch = (desk.session, false)) ∧
      ∀ ticket message, (desk.session.completeMore ticket (.error message)).2 = true →
        let failed := (desk.session.completeMore ticket (.error message)).1
        failed.data = desk.session.data ∧ failed.pager = desk.session.pager ∧
          failed.navigation = desk.session.navigation ∧ failed.panel = desk.session.panel ∧
          failed.generation = desk.session.generation ∧
          failed.beginMore.2 =
            some ⟨desk.session.generation, desk.session.navigation, ticket.pageToken⟩ := by
  intro desk
  have reachable : desk.Reachable := ⟨navigation, steps, orderly, rfl⟩
  have accounted := reachable.accounted
  exact ⟨accounted.hosts, accounted.chained, accounted.inOrder,
    fun _ member => accounted.appended_generation member,
    fun _ batch stale => desk.session.completeMore_dropped (.inl stale) batch,
    fun _ _ taken => reachable.sound.retry taken⟩

/-- A refresh, a continuation that fails and is tried again, and a refresh that overtakes the next one. -/
def retriedRun (first second : Host) : List Session.Step :=
  [.beginRefresh, .completeRefresh ⟨1, {}⟩ { hosts := [first], nextPageToken := some "a" },
    .beginMore, .completeMore ⟨1, {}, "a"⟩ (.error "down"),
    .beginMore, .completeMore ⟨1, {}, "a"⟩ (.ok ([second], some "b")),
    .beginMore, .beginRefresh, .completeMore ⟨1, {}, "b"⟩ (.ok ([first], none))]

theorem hosts_follow_tokens_retried :
    let desk := (openAt {}).run (retriedRun (.plain "x") (.plain "y"))
    (openAt {}).Orderly (retriedRun (.plain "x") (.plain "y")) ∧
      desk.session.data.hosts = [.plain "x", .plain "y"] ∧
      desk.session.completeMore ⟨1, {}, "b"⟩ (.ok ([.plain "x"], none)) = (desk.session, false) := by
  intro desk
  have orderly : (openAt {}).Orderly (retriedRun (.plain "x") (.plain "y")) := by decide
  obtain ⟨hosts, _, _, _, stale, _⟩ := hosts_follow_tokens orderly
  -- the second refresh has begun, so the ticket of the first one is old
  have newer : 1 ≠ desk.session.generation := by decide
  exact ⟨orderly, hosts, stale ⟨1, {}, "b"⟩ _ newer⟩

end Desk

end HostDashboard
