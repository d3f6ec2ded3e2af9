/-
**Whether the results are of the state in the link.**

The state in the link changes in one moment, and the refresh that follows the change begins in another.
A desk is settled when nothing lies between them: the refresh that began last was for the state that is
in the link now.

* `Tracked` says which refresh the current generation is: the one that began last. So the results that
  a session holds with the current generation are of that refresh, and they are of the state in the link
  exactly if the desk is settled;
* `Reachable.continuation` says what a continuation goes on with, and when that is of its own state;
* `Unmixed` says that all batches were asked for with the state of their refresh. A step keeps it unless
  it asks for a batch while the desk is not settled (`Reachable.unmixed_outcome`).
-/

import HostDashboard.Proofs.Session.Provenance

namespace HostDashboard

namespace Origin

/-- Every host with the state whose requests brought it. -/
def sources (origin : Origin) : List (Navigation × Host) :=
  origin.refresh.toList.flatMap (fun (ticket, data) => data.hosts.map (ticket.navigation, ·)) ++
    origin.appended.flatMap fun batch => batch.hosts.map (batch.ticket.navigation, ·)

/-- All batches were asked for with the state of the refresh that they continue. -/
def Unmixed (origin : Origin) : Prop :=
  ∀ ticket ∈ origin.asked, origin.refresh.map (·.1.navigation) = some ticket.navigation

theorem map_snd_sources (origin : Origin) : origin.sources.map Prod.snd = origin.hosts := by
  have plain (navigation : Navigation) (hosts : List Host) :
      (hosts.map (navigation, ·)).map Prod.snd = hosts := by
    rw [List.map_map]
    exact List.map_id hosts
  unfold sources Origin.hosts
  rw [List.map_append, List.map_flatMap, List.map_flatMap]
  congr 1
  · cases origin.refresh with
    | none => rfl
    | some refresh =>
      simp only [Option.toList_some, List.flatMap_cons, List.flatMap_nil, List.append_nil, plain,
        Option.map_some, Option.getD_some]
  · simp only [plain]

/-- Where nothing is mixed, every host is of the state of the refresh. -/
theorem Unmixed.source {origin : Origin} (unmixed : origin.Unmixed)
    (inOrder : (origin.appended.map AppendedBatch.ticket).Sublist origin.asked)
    {source : Navigation × Host} (member : source ∈ origin.sources) :
    origin.refresh.map (·.1.navigation) = some source.1 := by
  rcases List.mem_append.mp member with fresh | appended
  · obtain ⟨refresh, held, inside⟩ := List.mem_flatMap.mp fresh
    obtain ⟨host, _, rfl⟩ := List.mem_map.mp inside
    rw [Option.mem_toList.mp held]
    rfl
  · obtain ⟨batch, held, inside⟩ := List.mem_flatMap.mp appended
    obtain ⟨host, _, rfl⟩ := List.mem_map.mp inside
    exact unmixed _ (inOrder.subset (List.mem_map_of_mem held))

end Origin

namespace Desk

/-- The refresh that began last was for the state that is in the link now. -/
def Settled (desk : Desk) : Prop :=
  desk.latest.map RefreshTicket.navigation = some desk.session.navigation

instance (desk : Desk) : Decidable desk.Settled :=
  inferInstanceAs (Decidable (desk.latest.map _ = some desk.session.navigation))

/-- The current generation is the refresh that began last. -/
structure Tracked (desk : Desk) : Prop where
  refreshes : ∀ ticket ∈ desk.refreshes, ticket.generation = desk.session.generation →
    desk.latest = some ticket
  origin_le : ∀ refresh, desk.origin.refresh = some refresh →
    refresh.1.generation ≤ desk.session.generation
  origin : ∀ refresh, desk.origin.refresh = some refresh →
    refresh.1.generation = desk.session.generation → desk.latest = some refresh.1

variable {desk next : Desk}

/-! ### The refresh that began last -/

theorem tracked_openAt (navigation : Navigation) : (openAt navigation).Tracked :=
  ⟨fun _ member => absurd member List.not_mem_nil, nofun, nofun⟩

namespace Tracked

variable (tracked : desk.Tracked)

include tracked

/-- A new refresh is the last one, and all that is out or applied is older. -/
theorem begun (sound : desk.Sound) : Tracked
    { desk with
      session := desk.session.beginRefresh.1
      refreshes := desk.refreshes ++ [desk.session.beginRefresh.2]
      latest := some desk.session.beginRefresh.2 } := by
  have generation : desk.session.beginRefresh.1.generation = desk.session.generation + 1 := rfl
  refine ⟨fun ticket member current => ?_, fun refresh held => ?_, fun refresh held current => ?_⟩
  · rcases List.mem_append.mp member with old | new
    · have := sound.refreshes_le ticket old
      rw [generation] at current
      omega
    · rw [List.mem_singleton.mp new]
  · have := tracked.origin_le refresh held
    rw [generation]
    omega
  · have := tracked.origin_le refresh held
    rw [generation] at current
    omega

theorem outcome (sound : desk.Sound) {step : Session.Step} (outcome : desk.Outcome step next) :
    next.Tracked := by
  cases outcome with
  | edited edit =>
    refine ⟨?_, ?_, ?_⟩
    · rw [Session.edit_generation]
      exact tracked.refreshes
    · rw [Session.edit_generation]
      exact tracked.origin_le
    · rw [Session.edit_generation]
      exact tracked.origin
  | begun => exact tracked.begun sound
  | @applied ticket out current data =>
    refine ⟨fun other member => tracked.refreshes other (List.mem_of_mem_erase member),
      fun refresh held => ?_, fun refresh held _ => ?_⟩
    · cases held
      exact Nat.le_of_eq current
    · cases held
      exact tracked.refreshes ticket out current
  | overtaken out stale data =>
    exact ⟨fun other member => tracked.refreshes other (List.mem_of_mem_erase member),
      tracked.origin_le, tracked.origin⟩
  | refused none => exact tracked
  | handed handed => exact ⟨tracked.refreshes, tracked.origin_le, tracked.origin⟩
  | appended out current inFlight hosts nextPageToken =>
    exact ⟨tracked.refreshes, tracked.origin_le, tracked.origin⟩
  | failed out current inFlight message =>
    exact ⟨tracked.refreshes, tracked.origin_le, tracked.origin⟩
  | dropped out other batch => exact ⟨tracked.refreshes, tracked.origin_le, tracked.origin⟩

end Tracked

theorem Reachable.tracked (reachable : desk.Reachable) : desk.Tracked :=
  reachable.induction tracked_openAt fun _ _ reachable tracked allowed =>
    tracked.outcome reachable.sound (Desk.outcome allowed)

theorem Reachable.committed (reachable : desk.Reachable) : desk.session.Committed := by
  refine reachable.induction (motive := fun desk => desk.session.Committed)
    Session.committed_openAt fun desk step _ committed _ => ?_
  rw [after_session]
  exact committed.after step

/-- Results that are held with the current generation are those of the refresh that began last, and
of the state in the link exactly if the desk is settled. -/
theorem Reachable.current (reachable : desk.Reachable)
    (current : desk.origin.generation? = some desk.session.generation) :
    ∃ refresh data, desk.origin.refresh = some (refresh, data) ∧ desk.latest = some refresh ∧
      refresh.generation = desk.session.generation ∧
        (refresh.navigation = desk.session.navigation ↔ desk.Settled) := by
  obtain ⟨⟨refresh, data⟩, held, generation⟩ := Option.map_eq_some_iff.mp current
  have latest := reachable.tracked.origin _ held generation
  refine ⟨refresh, data, held, latest, generation, ?_⟩
  unfold Settled
  rw [latest, Option.map_some, Option.some.injEq]

/-- **What a continuation goes on with.** It carries the token that came last for the refresh that began
last. It is for the same state as that refresh exactly if the desk is settled when it is handed out. -/
theorem Reachable.continuation (reachable : desk.Reachable) {ticket : MoreTicket}
    (handed : desk.session.beginMore.2 = some ticket) :
    ∃ refresh data, desk.origin.refresh = some (refresh, data) ∧
      refresh.generation = ticket.generation ∧
      desk.origin.lastToken = some ticket.pageToken ∧
        (ticket.navigation = refresh.navigation ↔ desk.Settled) := by
  obtain ⟨_, _, token, generation, navigation⟩ :=
    (desk.session.beginMore_eq_some_iff ticket).mp handed
  obtain ⟨current, last⟩ := reachable.accounted.token _ token
  obtain ⟨refresh, data, held, _, same, settled⟩ := reachable.current current
  refine ⟨refresh, data, held, same.trans generation.symm, last, ?_⟩
  rw [navigation, eq_comm]
  exact settled

/-! ### What makes a desk settled -/

theorem settled_beginRefresh (desk : Desk) : (desk.after .beginRefresh).Settled := rfl

/-- Only a refresh that begins is noted as the last one. -/
theorem after_latest (desk : Desk) {step : Session.Step} (other : step ≠ .beginRefresh) :
    (desk.after step).latest = desk.latest := by
  cases step with
  | beginRefresh => exact absurd rfl other
  | beginMore =>
    rw [after]
    split <;> rfl
  | _ => rfl

/-- Only a change of the state in the link can unsettle a desk. -/
theorem Settled.after (settled : desk.Settled) {step : Session.Step}
    (unchanged : (desk.session.after step).navigation = desk.session.navigation) :
    (desk.after step).Settled := by
  by_cases begin : step = .beginRefresh
  · rw [begin]
    exact settled_beginRefresh desk
  · unfold Settled
    rw [after_session, unchanged, after_latest desk begin]
    exact settled

/-! ### Batches of one state -/

theorem unmixed_openAt (navigation : Navigation) : (openAt navigation).origin.Unmixed :=
  fun _ member => absurd member List.not_mem_nil

/-- **Nothing gets mixed by a step that does not ask for a batch while the desk is not settled.** -/
theorem Reachable.unmixed_outcome (reachable : desk.Reachable) (unmixed : desk.origin.Unmixed)
    {step : Session.Step}
    (prudent : step = .beginMore → desk.session.beginMore.2.isSome → desk.Settled)
    (outcome : desk.Outcome step next) : next.origin.Unmixed := by
  cases outcome with
  | applied => exact fun _ member => absurd member List.not_mem_nil
  | @handed ticket handed =>
    obtain ⟨refresh, data, held, _, _, settled⟩ := reachable.continuation handed
    intro other member
    rcases List.mem_append.mp member with old | new
    · exact unmixed other old
    · rw [List.mem_singleton.mp new]
      show desk.origin.refresh.map _ = _
      rw [held, settled.mpr (prudent rfl (handed ▸ rfl))]
      rfl
  | _ => exact unmixed

end Desk

end HostDashboard
