/-
**A session with the tickets that are out.**

A `Desk` keeps, beside a session, what has been handed out and has not come back, and where the hosts
that the session holds come from. None of this is read by the session; it is the record by which runs
are spoken about.

* `Desk.Orderly`: every result comes back under a ticket that is out, so under each ticket at most once.
  A ticket may also be lost and never come back;
* `Desk.Outcome` lists everything that an allowed step can do, and `Desk.outcome` says that the list is
  complete. Invariants are proved by cases on it;
* `Desk.Orderly.induction`: what holds at the start and is kept by every orderly step holds after every
  orderly run;
* `Origin.hosts` is the list of hosts that the record accounts for.
-/

import HostDashboard.Proofs.Session.Step

namespace HostDashboard

/-- A batch that was appended, and the ticket under which it came back. -/
structure AppendedBatch where
  ticket : MoreTicket
  hosts : List Host
  nextPageToken : Option String

/-- Where the hosts of a session come from. -/
structure Origin where
  /-- The refresh that was applied last, and what it brought. -/
  refresh : Option (RefreshTicket × Data) := none
  /-- The continuations that were handed out since then, the oldest first. -/
  asked : List MoreTicket := []
  /-- The batches that were appended since then, the oldest first. -/
  appended : List AppendedBatch := []

namespace Origin

/-- The generation of the refresh that was applied last. -/
def generation? (origin : Origin) : Option Nat := origin.refresh.map (·.1.generation)

def firstToken (origin : Origin) : Option String := origin.refresh.bind (·.2.nextPageToken)

/-- The token that came last, with the refresh or with a batch. -/
def lastToken (origin : Origin) : Option String :=
  origin.appended.foldl (fun _ batch => batch.nextPageToken) origin.firstToken

/-- The hosts of the refresh, then those of the batches. -/
def hosts (origin : Origin) : List Host :=
  ((origin.refresh.map (·.2.hosts)).getD []) ++ origin.appended.flatMap AppendedBatch.hosts

/-- A continuation has been handed out. -/
def ask (origin : Origin) (ticket : MoreTicket) : Origin :=
  { origin with asked := origin.asked ++ [ticket] }

/-- A continuation has been taken up; a failed one brings nothing. -/
def take (origin : Origin) (ticket : MoreTicket) : Batch → Origin
  | .ok (hosts, nextPageToken) =>
    { origin with appended := origin.appended ++ [⟨ticket, hosts, nextPageToken⟩] }
  | .error _ => origin

end Origin

/-- A session with the tickets that are out. -/
structure Desk where
  session : Session
  /-- The refreshes that have not come back. -/
  refreshes : List RefreshTicket := []
  /-- The continuations that have not come back. -/
  continuations : List MoreTicket := []
  /-- The refresh that began last. -/
  latest : Option RefreshTicket := none
  origin : Origin := {}

namespace Desk

/-- The desk of a session that was opened at a state. -/
def openAt (navigation : Navigation) : Desk := { session := .openAt navigation }

/-- The desk after a step. -/
def after (desk : Desk) : Session.Step → Desk
  | .edit edit => { desk with session := desk.session.edit edit }
  | .beginRefresh =>
    { desk with
      session := desk.session.beginRefresh.1
      refreshes := desk.refreshes ++ [desk.session.beginRefresh.2]
      latest := some desk.session.beginRefresh.2 }
  | .completeRefresh ticket data =>
    { desk with
      session := (desk.session.completeRefresh ticket.generation data).1
      refreshes := desk.refreshes.erase ticket
      origin :=
        if (desk.session.completeRefresh ticket.generation data).2 then
          { refresh := some (ticket, data) }
        else desk.origin }
  | .beginMore =>
    match desk.session.beginMore.2 with
    | none => desk
    | some ticket =>
      { desk with
        session := desk.session.beginMore.1
        continuations := desk.continuations ++ [ticket]
        origin := desk.origin.ask ticket }
  | .completeMore ticket batch =>
    { desk with
      session := (desk.session.completeMore ticket batch).1
      continuations := desk.continuations.erase ticket
      origin :=
        if (desk.session.completeMore ticket batch).2 then desk.origin.take ticket batch
        else desk.origin }

def run (desk : Desk) (steps : List Session.Step) : Desk := steps.foldl after desk

/-- What comes back comes back under a ticket that is out. -/
def Allows (desk : Desk) : Session.Step → Prop
  | .completeRefresh ticket _ => ticket ∈ desk.refreshes
  | .completeMore ticket _ => ticket ∈ desk.continuations
  | _ => True

/-- Every step of a run is allowed when it is taken: no ticket comes back twice. -/
def Orderly (desk : Desk) : List Session.Step → Prop
  | [] => True
  | step :: rest => desk.Allows step ∧ (desk.after step).Orderly rest

/-- A desk that some orderly run of some new session leads to. -/
def Reachable (desk : Desk) : Prop :=
  ∃ navigation steps, (openAt navigation).Orderly steps ∧ (openAt navigation).run steps = desk

@[simp] theorem run_nil (desk : Desk) : desk.run [] = desk := rfl

@[simp] theorem run_cons (desk : Desk) (step : Session.Step) (rest : List Session.Step) :
    desk.run (step :: rest) = (desk.after step).run rest := rfl

/-! ### The record does not meddle with the session -/

theorem after_session (desk : Desk) (step : Session.Step) :
    (desk.after step).session = desk.session.after step := by
  cases step with
  | beginMore =>
    show Desk.session (match desk.session.beginMore.2 with | none => desk | some ticket => _) = _
    cases handed : desk.session.beginMore.2 with
    | none => exact (desk.session.beginMore_of_none handed).symm
    | some ticket => rfl
  | _ => rfl

theorem run_session (desk : Desk) (steps : List Session.Step) :
    (desk.run steps).session = desk.session.run steps := by
  induction steps generalizing desk with
  | nil => rfl
  | cons step rest ih => rw [run_cons, Session.run_cons, ih, after_session]

/-! ### What an allowed step can do -/

/-- The ways in which an allowed step can turn out, each with the desk that it leaves. -/
inductive Outcome (desk : Desk) : Session.Step → Desk → Prop
  | edited (edit : Edit) :
      Outcome desk (.edit edit) { desk with session := desk.session.edit edit }
  | begun :
      Outcome desk .beginRefresh
        { desk with
          session := desk.session.beginRefresh.1
          refreshes := desk.refreshes ++ [desk.session.beginRefresh.2]
          latest := some desk.session.beginRefresh.2 }
  | applied {ticket : RefreshTicket} (out : ticket ∈ desk.refreshes)
      (current : ticket.generation = desk.session.generation) (data : Data) :
      Outcome desk (.completeRefresh ticket data)
        { desk with
          session := { desk.session with
              status := data.status
              pager := desk.session.pager.sync data.hosts.length
              data }.emit (Session.outcomeEvent desk.session.generation data)
          refreshes := desk.refreshes.erase ticket
          origin := { refresh := some (ticket, data) } }
  | overtaken {ticket : RefreshTicket} (out : ticket ∈ desk.refreshes)
      (stale : ticket.generation ≠ desk.session.generation) (data : Data) :
      Outcome desk (.completeRefresh ticket data)
        { desk with refreshes := desk.refreshes.erase ticket }
  | refused (none : desk.session.beginMore.2 = none) : Outcome desk .beginMore desk
  | handed {ticket : MoreTicket} (handed : desk.session.beginMore.2 = some ticket) :
      Outcome desk .beginMore
        { desk with
          session := { desk.session with
            inFlight := some ticket.pageToken
            status := { desk.session.status with search := .loading } }
          continuations := desk.continuations ++ [ticket]
          origin := desk.origin.ask ticket }
  | appended {ticket : MoreTicket} (out : ticket ∈ desk.continuations)
      (current : ticket.generation = desk.session.generation)
      (inFlight : desk.session.inFlight = some ticket.pageToken)
      (hosts : List Host) (nextPageToken : Option String) :
      Outcome desk (.completeMore ticket (.ok (hosts, nextPageToken)))
        { desk with
          session := { desk.session with
              inFlight := Option.none
              data := { desk.session.data with hosts := desk.session.data.hosts ++ hosts, nextPageToken }
              status := { desk.session.status with search := .ready }
              pager := desk.session.pager.sync (desk.session.data.hosts ++ hosts).length }.emit
                (.loaded ticket.generation (desk.session.data.hosts ++ hosts).length)
          continuations := desk.continuations.erase ticket
          origin := desk.origin.take ticket (.ok (hosts, nextPageToken)) }
  | failed {ticket : MoreTicket} (out : ticket ∈ desk.continuations)
      (current : ticket.generation = desk.session.generation)
      (inFlight : desk.session.inFlight = some ticket.pageToken) (message : String) :
      Outcome desk (.completeMore ticket (.error message))
        { desk with
          session := { desk.session with
              inFlight := Option.none
              status := { desk.session.status with search := .failed } }.emit
                (.failed ticket.generation message)
          continuations := desk.continuations.erase ticket }
  | dropped {ticket : MoreTicket} (out : ticket ∈ desk.continuations)
      (other : ticket.generation ≠ desk.session.generation ∨
        desk.session.inFlight ≠ some ticket.pageToken) (batch : Batch) :
      Outcome desk (.completeMore ticket batch)
        { desk with continuations := desk.continuations.erase ticket }

/-- **An allowed step turns out in one of these ways.** -/
theorem outcome {desk : Desk} {step : Session.Step} (allowed : desk.Allows step) :
    desk.Outcome step (desk.after step) := by
  cases step with
  | edit edit => exact .edited edit
  | beginRefresh => exact .begun
  | completeRefresh ticket data =>
    rw [after]
    by_cases current : ticket.generation = desk.session.generation
    · rw [current, Session.completeRefresh_current]
      exact .applied allowed current data
    · rw [Session.completeRefresh_stale _ current]
      exact .overtaken allowed current data
  | beginMore =>
    rw [after]
    cases handed : desk.session.beginMore.2 with
    | none => exact .refused handed
    | some ticket =>
      rw [Session.beginMore_of_some _ handed]
      exact .handed handed
  | completeMore ticket batch =>
    rw [after]
    by_cases other : ticket.generation ≠ desk.session.generation ∨
        desk.session.inFlight ≠ some ticket.pageToken
    · rw [Session.completeMore_dropped _ other]
      exact .dropped allowed other batch
    · rw [not_or, Classical.not_not, Classical.not_not] at other
      obtain ⟨current, inFlight⟩ := other
      cases batch with
      | ok found =>
        rw [Session.completeMore_appended _ current inFlight]
        exact .appended allowed current inFlight found.1 found.2
      | error message =>
        rw [Session.completeMore_failed _ current inFlight]
        exact .failed allowed current inFlight message

/-! ### Orderly runs -/

instance (desk : Desk) : (step : Session.Step) → Decidable (desk.Allows step)
  | .completeRefresh ticket _ => inferInstanceAs (Decidable (ticket ∈ desk.refreshes))
  | .completeMore ticket _ => inferInstanceAs (Decidable (ticket ∈ desk.continuations))
  | .edit _ => .isTrue trivial
  | .beginRefresh => .isTrue trivial
  | .beginMore => .isTrue trivial

instance decidableOrderly : (desk : Desk) → (steps : List Session.Step) →
    Decidable (desk.Orderly steps)
  | _, [] => .isTrue trivial
  | desk, step :: rest =>
    have := decidableOrderly (desk.after step) rest
    inferInstanceAs (Decidable (desk.Allows step ∧ (desk.after step).Orderly rest))

/-- **What every orderly step of a run keeps, the run keeps.** -/
theorem Orderly.induction {motive : Desk → Prop} {desk : Desk} {steps : List Session.Step}
    (orderly : desk.Orderly steps) (start : motive desk)
    (kept : ∀ desk, ∀ step ∈ steps, motive desk → desk.Allows step → motive (desk.after step)) :
    motive (desk.run steps) := by
  induction steps generalizing desk with
  | nil => exact start
  | cons step rest ih =>
    refine ih orderly.2 (kept desk step List.mem_cons_self start orderly.1) ?_
    exact fun desk step member => kept desk step (List.mem_cons_of_mem _ member)

theorem orderly_append (desk : Desk) (first second : List Session.Step) :
    desk.Orderly (first ++ second) ↔ desk.Orderly first ∧ (desk.run first).Orderly second := by
  induction first generalizing desk with
  | nil => exact ⟨fun orderly => ⟨trivial, orderly⟩, And.right⟩
  | cons step rest ih =>
    show desk.Allows step ∧ (desk.after step).Orderly (rest ++ second) ↔
      (desk.Allows step ∧ (desk.after step).Orderly rest) ∧ ((desk.after step).run rest).Orderly second
    rw [ih, and_assoc]

theorem reachable_openAt (navigation : Navigation) : (openAt navigation).Reachable :=
  ⟨navigation, [], trivial, rfl⟩

theorem Reachable.after {desk : Desk} (reachable : desk.Reachable) {step : Session.Step}
    (allowed : desk.Allows step) : (desk.after step).Reachable := by
  obtain ⟨navigation, steps, orderly, rfl⟩ := reachable
  refine ⟨navigation, steps ++ [step], ?_, ?_⟩
  · rw [orderly_append]
    exact ⟨orderly, allowed, trivial⟩
  · unfold run
    rw [List.foldl_append]
    rfl

/-- **What holds of new sessions and is kept by every allowed step holds of every reachable desk.** -/
theorem Reachable.induction {motive : Desk → Prop} {desk : Desk} (reachable : desk.Reachable)
    (start : ∀ navigation, motive (openAt navigation))
    (kept : ∀ desk step, desk.Reachable → motive desk → desk.Allows step →
      motive (desk.after step)) :
    motive desk := by
  obtain ⟨navigation, steps, orderly, rfl⟩ := reachable
  have both : ((openAt navigation).run steps).Reachable ∧ motive ((openAt navigation).run steps) :=
    Orderly.induction (motive := fun desk => desk.Reachable ∧ motive desk) orderly
      ⟨reachable_openAt navigation, start navigation⟩ fun desk step _ known allowed =>
        ⟨known.1.after allowed, kept desk step known.1 known.2 allowed⟩
  exact both.2

end Desk

end HostDashboard
