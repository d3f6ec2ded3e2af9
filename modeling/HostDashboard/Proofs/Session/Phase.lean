/-
**The load states and the tickets that are out.**

Tickets of older generations may be out in any number, and nothing that comes back under them is taken
up. Of the current generation at most one ticket is out, and the session knows which:

* `Phase` has a case for each of the three things that can be: nothing of the current generation is out,
  a refresh is, or a continuation is. Each case fixes the load states and the continuation in flight;
* `Sound.outcome` says that every step keeps this, in whatever way it turns out, and
  `Desk.Reachable.sound` that it therefore always holds.
-/

import HostDashboard.Proofs.Session.Desk

namespace HostDashboard

namespace Desk

/-- The refreshes of the current generation that are out. -/
def currentRefreshes (desk : Desk) : List RefreshTicket :=
  desk.refreshes.filter fun ticket => ticket.generation = desk.session.generation

def currentContinuations (desk : Desk) : List MoreTicket :=
  desk.continuations.filter fun ticket => ticket.generation = desk.session.generation

/-- What of the current generation is out, and what the session knows of it. -/
inductive Phase (desk : Desk) : Prop
  | resting (refreshes : desk.currentRefreshes = []) (continuations : desk.currentContinuations = [])
      (search : desk.session.status.search ≠ .loading)
      (facets : desk.session.status.facets ≠ .loading) (inFlight : desk.session.inFlight = none)
  | refreshing (ticket : RefreshTicket) (refreshes : desk.currentRefreshes = [ticket])
      (continuations : desk.currentContinuations = [])
      (status : desk.session.status = ⟨.loading, .loading⟩) (inFlight : desk.session.inFlight = none)
      (token : desk.session.data.nextPageToken = none)
  | continuing (ticket : MoreTicket) (refreshes : desk.currentRefreshes = [])
      (continuations : desk.currentContinuations = [ticket])
      (search : desk.session.status.search = .loading)
      (facets : desk.session.status.facets ≠ .loading)
      (inFlight : desk.session.inFlight = some ticket.pageToken)
      (token : desk.session.data.nextPageToken = some ticket.pageToken)

/-- The tickets that are out fit the session. -/
structure Sound (desk : Desk) : Prop where
  refreshes_le : ∀ ticket ∈ desk.refreshes, ticket.generation ≤ desk.session.generation
  continuations_le : ∀ ticket ∈ desk.continuations, ticket.generation ≤ desk.session.generation
  phase : desk.Phase

variable {desk next : Desk}

/-! ### Tickets of the current generation -/

theorem mem_currentRefreshes {ticket : RefreshTicket} :
    ticket ∈ desk.currentRefreshes ↔
      ticket ∈ desk.refreshes ∧ ticket.generation = desk.session.generation := by
  unfold currentRefreshes
  rw [List.mem_filter, decide_eq_true_eq]

theorem mem_currentContinuations {ticket : MoreTicket} :
    ticket ∈ desk.currentContinuations ↔
      ticket ∈ desk.continuations ∧ ticket.generation = desk.session.generation := by
  unfold currentContinuations
  rw [List.mem_filter, decide_eq_true_eq]

/-- A list does not lose what another ticket than the erased one contributes. -/
theorem filter_erase_of_neg {α : Type} [DecidableEq α] {kept : α → Bool} {erased : α}
    (notKept : kept erased = false) (list : List α) :
    (list.erase erased).filter kept = list.filter kept := by
  rw [← List.erase_filter]
  refine List.erase_of_not_mem fun member => ?_
  rw [List.mem_filter, notKept] at member
  exact Bool.false_ne_true member.2

/-- When the only item that a list contributes is erased, nothing is left of it. -/
theorem filter_erase_of_singleton {α : Type} [DecidableEq α] {kept : α → Bool} {erased : α}
    {list : List α} (only : list.filter kept = [erased]) :
    (list.erase erased).filter kept = [] := by
  rw [← List.erase_filter, only, List.erase_cons_head]

namespace Phase

/-- A phase depends only on the current tickets and on what the session knows of them. -/
theorem congr (phase : desk.Phase) (refreshes : next.currentRefreshes = desk.currentRefreshes)
    (continuations : next.currentContinuations = desk.currentContinuations)
    (status : next.session.status = desk.session.status)
    (inFlight : next.session.inFlight = desk.session.inFlight)
    (token : next.session.data.nextPageToken = desk.session.data.nextPageToken) : next.Phase := by
  cases phase with
  | resting r c s f i =>
    exact .resting (refreshes.trans r) (continuations.trans c) (status ▸ s) (status ▸ f)
      (inFlight.trans i)
  | refreshing ticket r c s i t =>
    exact .refreshing ticket (refreshes.trans r) (continuations.trans c) (status.trans s)
      (inFlight.trans i) (token.trans t)
  | continuing ticket r c s f i t =>
    exact .continuing ticket (refreshes.trans r) (continuations.trans c) (status ▸ s) (status ▸ f)
      (inFlight.trans i) (token.trans t)

/-- A refresh of the current generation that is out is the only current ticket. -/
theorem of_refresh (phase : desk.Phase) {ticket : RefreshTicket} (out : ticket ∈ desk.refreshes)
    (current : ticket.generation = desk.session.generation) :
    desk.currentRefreshes = [ticket] ∧ desk.currentContinuations = [] ∧
      desk.session.inFlight = none := by
  have member : ticket ∈ desk.currentRefreshes := mem_currentRefreshes.mpr ⟨out, current⟩
  cases phase with
  | resting refreshes =>
    rw [refreshes] at member
    cases member
  | refreshing other refreshes continuations status inFlight token =>
    rw [refreshes] at member
    rw [List.mem_singleton.mp member]
    exact ⟨refreshes, continuations, inFlight⟩
  | continuing other refreshes =>
    rw [refreshes] at member
    cases member

/-- A continuation of the current generation that is out is the only current ticket, and the one in
flight. -/
theorem of_continuation (phase : desk.Phase) {ticket : MoreTicket}
    (out : ticket ∈ desk.continuations)
    (current : ticket.generation = desk.session.generation) :
    desk.currentRefreshes = [] ∧ desk.currentContinuations = [ticket] ∧
      desk.session.status.facets ≠ .loading ∧ desk.session.inFlight = some ticket.pageToken ∧
        desk.session.data.nextPageToken = some ticket.pageToken := by
  have member : ticket ∈ desk.currentContinuations := mem_currentContinuations.mpr ⟨out, current⟩
  cases phase with
  | resting refreshes continuations =>
    rw [continuations] at member
    cases member
  | refreshing other refreshes continuations =>
    rw [continuations] at member
    cases member
  | continuing other refreshes continuations search facets inFlight token =>
    rw [continuations] at member
    rw [List.mem_singleton.mp member]
    exact ⟨refreshes, continuations, facets, inFlight, token⟩

/-- While no hosts are loading, no current ticket is out. -/
theorem of_notLoading (phase : desk.Phase) (notLoading : desk.session.status.search ≠ .loading) :
    desk.currentRefreshes = [] ∧ desk.currentContinuations = [] ∧
      desk.session.status.facets ≠ .loading ∧ desk.session.inFlight = none := by
  cases phase with
  | resting refreshes continuations search facets inFlight =>
    exact ⟨refreshes, continuations, facets, inFlight⟩
  | refreshing ticket refreshes continuations status =>
    rw [status] at notLoading
    exact absurd rfl notLoading
  | continuing ticket refreshes continuations search => exact absurd search notLoading

end Phase

/-! ### Every step keeps it -/

namespace Sound

variable (sound : desk.Sound)

include sound

theorem edited (edit : Edit) : Sound { desk with session := desk.session.edit edit } := by
  refine ⟨?_, ?_, sound.phase.congr ?_ ?_ ?_ ?_ ?_⟩
  · rw [Session.edit_generation]
    exact sound.refreshes_le
  · rw [Session.edit_generation]
    exact sound.continuations_le
  · unfold currentRefreshes
    rw [Session.edit_generation]
  · unfold currentContinuations
    rw [Session.edit_generation]
  · exact Session.edit_status _ edit
  · exact Session.edit_inFlight _ edit
  · exact congrArg Data.nextPageToken (Session.edit_data _ edit)

/-- After a new refresh has begun, all older tickets are of an older generation. -/
theorem begun : Sound
    { desk with
      session := desk.session.beginRefresh.1
      refreshes := desk.refreshes ++ [desk.session.beginRefresh.2]
      latest := some desk.session.beginRefresh.2 } := by
  have oldRefreshes : desk.refreshes.filter
      (fun ticket => ticket.generation = desk.session.generation + 1) = [] := by
    refine List.filter_eq_nil_iff.mpr fun ticket member => ?_
    have := sound.refreshes_le ticket member
    rw [decide_eq_true_eq]
    omega
  have oldContinuations : desk.continuations.filter
      (fun ticket => ticket.generation = desk.session.generation + 1) = [] := by
    refine List.filter_eq_nil_iff.mpr fun ticket member => ?_
    have := sound.continuations_le ticket member
    rw [decide_eq_true_eq]
    omega
  refine ⟨fun ticket member => ?_, fun ticket member => ?_,
    .refreshing desk.session.beginRefresh.2 ?_ oldContinuations rfl rfl rfl⟩
  · show ticket.generation ≤ desk.session.generation + 1
    rcases List.mem_append.mp member with old | new
    · exact Nat.le_succ_of_le (sound.refreshes_le ticket old)
    · rw [List.mem_singleton.mp new]
      exact Nat.le_refl _
  · exact Nat.le_succ_of_le (sound.continuations_le ticket member)
  · show (desk.refreshes ++ [desk.session.beginRefresh.2]).filter
        (fun ticket => ticket.generation = desk.session.generation + 1) = _
    rw [List.filter_append, oldRefreshes, List.nil_append]
    exact List.filter_cons_of_pos (decide_eq_true rfl)

/-- A ticket that has come back is gone, in whatever state the session is then. -/
theorem refreshes_erase_le (ticket : RefreshTicket) :
    ∀ other ∈ desk.refreshes.erase ticket, other.generation ≤ desk.session.generation :=
  fun other member => sound.refreshes_le other (List.mem_of_mem_erase member)

theorem continuations_erase_le (ticket : MoreTicket) :
    ∀ other ∈ desk.continuations.erase ticket, other.generation ≤ desk.session.generation :=
  fun other member => sound.continuations_le other (List.mem_of_mem_erase member)

/-- **Every step keeps the tickets and the session together.** -/
theorem outcome {step : Session.Step} (outcome : desk.Outcome step next) : next.Sound := by
  cases outcome with
  | edited edit => exact sound.edited edit
  | begun => exact sound.begun
  | @applied ticket out current data =>
    obtain ⟨refreshes, continuations, inFlight⟩ := sound.phase.of_refresh out current
    refine ⟨sound.refreshes_erase_le ticket, sound.continuations_le,
      .resting (filter_erase_of_singleton refreshes) continuations ?_ ?_ inFlight⟩
    · show Data.loaded data.searchFailed ≠ .loading
      unfold Data.loaded
      split <;> exact nofun
    · show Data.loaded data.facetsFailed ≠ .loading
      unfold Data.loaded
      split <;> exact nofun
  | @overtaken ticket out stale data =>
    refine ⟨sound.refreshes_erase_le ticket, sound.continuations_le,
      sound.phase.congr ?_ rfl rfl rfl rfl⟩
    refine filter_erase_of_neg ?_ desk.refreshes
    exact decide_eq_false stale
  | refused none => exact sound
  | @handed ticket handed =>
    obtain ⟨notLoading, _, token, generation, _⟩ :=
      (desk.session.beginMore_eq_some_iff ticket).mp handed
    obtain ⟨refreshes, continuations, facets, _⟩ := sound.phase.of_notLoading notLoading
    refine ⟨sound.refreshes_le, fun other member => ?_,
      .continuing ticket refreshes ?_ rfl facets rfl token⟩
    · rcases List.mem_append.mp member with old | new
      · exact sound.continuations_le other old
      · cases List.mem_singleton.mp new
        exact Nat.le_of_eq generation
    · show (desk.continuations ++ [ticket]).filter
          (fun other => other.generation = desk.session.generation) = [ticket]
      rw [List.filter_append]
      show desk.currentContinuations ++ _ = _
      rw [continuations, List.nil_append]
      exact List.filter_cons_of_pos (decide_eq_true generation)
  | @appended ticket out current inFlight hosts nextPageToken =>
    obtain ⟨refreshes, continuations, facets, _⟩ := sound.phase.of_continuation out current
    exact ⟨sound.refreshes_le, sound.continuations_erase_le ticket,
      .resting refreshes (filter_erase_of_singleton continuations) nofun facets rfl⟩
  | @failed ticket out current inFlight message =>
    obtain ⟨refreshes, continuations, facets, _⟩ := sound.phase.of_continuation out current
    exact ⟨sound.refreshes_le, sound.continuations_erase_le ticket,
      .resting refreshes (filter_erase_of_singleton continuations) nofun facets rfl⟩
  | @dropped ticket out other batch =>
    have stale : ticket.generation ≠ desk.session.generation := by
      intro current
      rcases other with stale | notInFlight
      · exact stale current
      · exact notInFlight (sound.phase.of_continuation out current).2.2.2.1
    refine ⟨sound.refreshes_le, sound.continuations_erase_le ticket,
      sound.phase.congr rfl ?_ rfl rfl rfl⟩
    refine filter_erase_of_neg ?_ desk.continuations
    exact decide_eq_false stale

end Sound

theorem sound_openAt (navigation : Navigation) : (openAt navigation).Sound where
  refreshes_le := fun _ member => absurd member List.not_mem_nil
  continuations_le := fun _ member => absurd member List.not_mem_nil
  phase := .resting rfl rfl nofun nofun rfl

/-- **In every orderly run the load states fit the tickets that are out.** -/
theorem Reachable.sound (reachable : desk.Reachable) : desk.Sound :=
  reachable.induction sound_openAt fun _ _ _ sound allowed => sound.outcome (Desk.outcome allowed)

end Desk

end HostDashboard
