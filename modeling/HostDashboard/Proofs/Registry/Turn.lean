/-
**The steps of a task.**

A step of a task changes the registry by its moment (`step_follows`), and it turns out in one of a few
ways (`step_turn`): which task is left depends on what happened to the session. Invariants of the
registry are proved by cases on `Turn`; the operations are not opened again.

* An edit that may have changed the state in the link is always followed by a refresh
  (`Turn.edited`);
* a task holds a ticket exactly from the moment in which it was handed out to the moment in which its
  results come back;
* a page that is answered is the page of a session right after the step (`step_answer`).
-/

import HostDashboard.Proofs.Registry.Moment

namespace HostDashboard

def Operation.target : Operation → SessionId
  | create id _ | view id | refresh id | navigate id _ | search id _ | toggle id _ _ | discard id
  | apply id | goTo id _ | more id | remove id => id

namespace Task

/-- The session that a task is about, as long as it has no answer. -/
def target? : Task → Option SessionId
  | start operation => some operation.target
  | refreshing id | loading id _ | continuing id _ | viewing id | showing id => some id
  | done _ => none

def hasTicket : Task → Bool
  | loading .. => true
  | continuing .. => true
  | _ => false

end Task

namespace Registry

variable {registry : Registry} {id : SessionId} {client : Client} {searchLimit : Nat}
  {deliveries : List Delivery}

theorem withSession_of_some {session : Session} (found : registry.session? id = some session)
    (next : Session → Registry × Task) : registry.withSession id next = next session := by
  unfold withSession
  rw [found]

theorem withSession_of_none (unfound : registry.session? id = none)
    (next : Session → Registry × Task) :
    registry.withSession id next = (registry, .done (.failed (unknown id))) := by
  unfold withSession
  rw [unfound]

/-- The ways in which a step of a task can turn out: what happens to a session, and which task is
left. -/
inductive Turn (registry : Registry) (client : Client) (searchLimit : Nat)
    (deliveries : List Delivery) : Task → Option (SessionId × Moment) → Task → Prop
  | quiet {task next : Task} (plain : task.hasTicket = false) (nextPlain : next.hasTicket = false)
      (unfound : ∀ id, task = .refreshing id → registry.session? id = none) :
      Turn registry client searchLimit deliveries task none next
  | opened (id : SessionId) (navigation : Navigation) :
      Turn registry client searchLimit deliveries (.start (.create id navigation))
        (some (id, .opened navigation)) (.refreshing id)
  | edited {id : SessionId} {session : Session} {operation : Operation} {next : Task} {edit : Edit}
      (found : registry.session? id = some session) (nextPlain : next.hasTicket = false)
      (followed : next = .refreshing id ∨
        (session.edit edit).navigation = session.navigation) :
      Turn registry client searchLimit deliveries (.start operation)
        (some (id, .stepped (.edit edit))) next
  | begun {id : SessionId} {session : Session} (found : registry.session? id = some session) :
      Turn registry client searchLimit deliveries (.refreshing id)
        (some (id, .stepped .beginRefresh)) (.loading id session.beginRefresh.2)
  | loaded (id : SessionId) (ticket : RefreshTicket) (answer : Answer) :
      Turn registry client searchLimit deliveries (.loading id ticket)
        (some (id, .stepped (.completeRefresh ticket
          (Data.ofDeliveries client ticket.navigation searchLimit deliveries)))) (.done answer)
  | refused {id : SessionId} {session : Session} (found : registry.session? id = some session)
      (refused : session.beginMore.2 = none) :
      Turn registry client searchLimit deliveries (.start (.more id))
        (some (id, .stepped .beginMore)) (.showing id)
  | handed {id : SessionId} {session : Session} {ticket : MoreTicket}
      (found : registry.session? id = some session)
      (handed : session.beginMore.2 = some ticket) :
      Turn registry client searchLimit deliveries (.start (.more id))
        (some (id, .stepped .beginMore)) (.continuing id ticket)
  | continued (id : SessionId) (ticket : MoreTicket) (answer : Answer) :
      Turn registry client searchLimit deliveries (.continuing id ticket)
        (some (id, .stepped (.completeMore ticket (batch client searchLimit ticket deliveries))))
        (.done answer)

/-! ### Operations -/

section Start

variable {operation : Operation} {step : Session.Step} (own : operation.step? = some (id, step))

include own

theorem moment?_start_of_some {session : Session} (found : registry.session? id = some session) :
    registry.moment? client searchLimit deliveries (.start operation) =
      some (id, .stepped step) := by
  simp only [moment?, own, found, Option.isSome_some, if_true]

theorem moment?_start_of_none (unfound : registry.session? id = none) :
    registry.moment? client searchLimit deliveries (.start operation) = none := by
  simp only [moment?, own, unfound, Option.isSome_none, Bool.false_eq_true, if_false]

/-- An operation on a session that is not found fails. -/
theorem start_of_none (unfound : registry.session? id = none) :
    registry.start operation = (registry, .done (.failed (unknown id))) := by
  cases operation with
  | create id navigation => cases own
  | view id => cases own
  | refresh id => cases own
  | remove id => cases own
  | _ =>
    cases own
    rw [start, withSession_of_none unfound]

theorem start_turn_of_some {session : Session} (found : registry.session? id = some session) :
    Turn registry client searchLimit deliveries (.start operation) (some (id, .stepped step))
      (registry.start operation).2 := by
  cases operation with
  | create id navigation => cases own
  | view id => cases own
  | refresh id => cases own
  | remove id => cases own
  | apply id =>
    cases own
    rw [start, withSession_of_some found]
    by_cases changed : session.apply.2 = true
    · rw [if_pos changed]
      exact .edited found rfl (.inl rfl)
    · rw [if_neg changed]
      have unchanged := session.apply_navigation_of_unchanged (Bool.eq_false_iff.mpr changed)
      exact .edited found rfl (.inr unchanged)
  | more id =>
    cases own
    rw [start, withSession_of_some found]
    cases handed : session.beginMore.2 with
    | none => exact .refused found handed
    | some ticket => exact .handed found handed
  | navigate id navigation =>
    cases own
    rw [start, withSession_of_some found]
    exact .edited found rfl (.inl rfl)
  | search id typed =>
    cases own
    rw [start, withSession_of_some found]
    exact .edited found rfl (.inl rfl)
  | _ =>
    cases own
    rw [start, withSession_of_some found]
    exact .edited found rfl (.inr rfl)

theorem start_follows_of_some {session : Session} (found : registry.session? id = some session) :
    Follows registry (registry.start operation).1 (some (id, .stepped step)) := by
  cases operation with
  | create id navigation => cases own
  | view id => cases own
  | refresh id => cases own
  | remove id => cases own
  | more id =>
    cases own
    rw [start, withSession_of_some found]
    cases handed : session.beginMore.2 with
    | none => exact .idle (sessions_of_session? found) (session.beginMore_of_none handed)
    | some ticket =>
      exact (Follows.update registry id _ .beginMore fun _ => rfl).trans (.touch _ id)
  | toggle id category value =>
    cases own
    rw [start, withSession_of_some found]
    exact (Follows.update registry id _ (.edit (.toggle category value)) fun _ => rfl).trans
      (.touch _ id)
  | goTo id page =>
    cases own
    rw [start, withSession_of_some found]
    exact (Follows.update registry id _ (.edit (.goTo page)) fun _ => rfl).trans (.touch _ id)
  | navigate id navigation =>
    cases own
    rw [start, withSession_of_some found]
    exact .update registry id _ (.edit (.navigate navigation)) fun _ => rfl
  | search id typed =>
    cases own
    rw [start, withSession_of_some found]
    exact .update registry id _ (.edit (.submitQuery typed)) fun _ => by
      dsimp only [Session.after, Session.edit]
  | discard id =>
    cases own
    rw [start, withSession_of_some found]
    exact .update registry id _ (.edit .discard) fun _ => rfl
  | apply id =>
    cases own
    rw [start, withSession_of_some found]
    exact .update registry id _ (.edit .apply) fun _ => rfl

end Start

/-! ### All tasks -/

/-- **A step of a task turns out in one of these ways.** -/
theorem step_turn (registry : Registry) (client : Client) (searchLimit : Nat)
    (deliveries : List Delivery) (task : Task) :
    Turn registry client searchLimit deliveries task
      (registry.moment? client searchLimit deliveries task)
      (registry.step client searchLimit deliveries task).2 := by
  cases task with
  | start operation =>
    rw [step]
    cases own : operation.step? with
    | some target =>
      cases found : registry.session? target.1 with
      | some session =>
        rw [moment?_start_of_some own found]
        exact start_turn_of_some own found
      | none =>
        rw [moment?_start_of_none own found, start_of_none own found]
        exact .quiet rfl rfl fun _ same => by cases same
    | none =>
      cases operation with
      | create id navigation => exact .opened id navigation
      | refresh id => exact .quiet rfl rfl fun _ same => by cases same
      | view id =>
        refine .quiet rfl ?_ fun _ same => by cases same
        rw [start, withSession]
        split <;> rfl
      | remove id =>
        refine .quiet rfl ?_ fun _ same => by cases same
        rw [start]
        split <;> rfl
      | _ => cases own
  | refreshing id =>
    rw [step, moment?]
    cases found : registry.session? id with
    | none =>
      rw [withSession_of_none found]
      exact .quiet rfl rfl fun other same => by cases same; exact found
    | some session =>
      rw [withSession_of_some found]
      exact .begun found
  | loading id ticket => exact .loaded id ticket _
  | continuing id ticket => exact .continued id ticket _
  | viewing id =>
    refine .quiet rfl ?_ fun _ same => by cases same
    rw [step, withSession]
    split <;> rfl
  | showing id => exact .quiet rfl rfl fun _ same => by cases same
  | done answer => exact .quiet rfl rfl fun _ same => by cases same

/-- **A step of a task changes the sessions by its moment, and opens none again.** -/
theorem step_follows (registry : Registry) (client : Client) (searchLimit : Nat)
    (deliveries : List Delivery) (task : Task) :
    Follows registry (registry.step client searchLimit deliveries task).1
      (registry.moment? client searchLimit deliveries task) := by
  cases task with
  | start operation =>
    rw [step]
    cases own : operation.step? with
    | some target =>
      cases found : registry.session? target.1 with
      | some session =>
        rw [moment?_start_of_some own found]
        exact start_follows_of_some own found
      | none =>
        rw [moment?_start_of_none own found, start_of_none own found]
        exact .refl registry
    | none =>
      cases operation with
      | create id navigation => exact .add registry id navigation
      | refresh id => exact .refl registry
      | view id =>
        show Follows registry (registry.start (.view id)).1 none
        rw [start, withSession]
        split
        · exact .touch registry id
        · exact .refl registry
      | remove id =>
        show Follows registry (registry.start (.remove id)).1 none
        rw [start]
        split
        · exact .close registry id
        · exact .refl registry
      | _ => cases own
  | refreshing id =>
    rw [step, moment?]
    cases found : registry.session? id with
    | none =>
      rw [withSession_of_none found]
      exact .refl registry
    | some session =>
      rw [withSession_of_some found]
      exact (Follows.update registry id _ .beginRefresh fun _ => rfl).trans (.touch _ id)
  | loading id ticket => exact .update registry id _ (.completeRefresh ticket _) fun _ => rfl
  | continuing id ticket => exact .update registry id _ (.completeMore ticket _) fun _ => rfl
  | viewing id =>
    show Follows registry (registry.step client searchLimit deliveries (.viewing id)).1 none
    rw [step, withSession]
    split
    · exact .touch registry id
    · exact .refl registry
  | showing id => exact .refl registry
  | done answer => exact .refl registry

/-! ### Answers -/

/-- A page that is at hand is the page of the session. -/
theorem session_of_shown {view : DashboardView} (shown : registry.shown id = .dashboard view) :
    ∃ session, registry.sessions id = some session ∧ view = session.view := by
  unfold Registry.shown at shown
  cases held : registry.entry? id with
  | none =>
    rw [held] at shown
    cases shown
  | some entry =>
    rw [held] at shown
    cases shown
    exact ⟨entry.session, congrArg (Option.map Entry.session) held, rfl⟩

/-- What a step answers by looking a session up is the page of that session. -/
theorem session_of_viewed {view : DashboardView}
    (viewed : (registry.withSession id fun session =>
      (registry.touch id, .done (.dashboard session.view))).2 = .done (.dashboard view)) :
    ∃ session, (registry.withSession id fun session =>
      (registry.touch id, .done (.dashboard session.view))).1.sessions id = some session ∧
        view = session.view := by
  cases found : registry.session? id with
  | none =>
    rw [withSession_of_none found] at viewed
    cases viewed
  | some session =>
    rw [withSession_of_some found] at viewed ⊢
    cases viewed
    refine ⟨session, ?_, rfl⟩
    rw [(Follows.touch registry id).sessions]
    exact sessions_of_session? found

/-- **A page that a step answers is the page of the session that the task is about, right after the
step.** -/
theorem step_answer {task : Task} (pending : task.answer? = none) {view : DashboardView}
    (answered : (registry.step client searchLimit deliveries task).2 = .done (.dashboard view)) :
    ∃ id session, task.target? = some id ∧
      (registry.step client searchLimit deliveries task).1.sessions id = some session ∧
        view = session.view := by
  cases task with
  | start operation =>
    rw [step] at answered
    cases operation with
    | view id => exact ⟨id, (session_of_viewed answered).imp fun _ known => ⟨rfl, known⟩⟩
    | goTo id page =>
      cases found : registry.session? id with
      | none =>
        rw [start, withSession_of_none found] at answered
        cases answered
      | some session =>
        have own : (Operation.goTo id page).step? = some (id, .edit (.goTo page)) := rfl
        have followed := (start_follows_of_some own found).sessions
        rw [start, withSession_of_some found] at answered
        cases answered
        refine ⟨id, session.goTo page, rfl, ?_, rfl⟩
        rw [step, followed]
        show (if id = id then (registry.sessions id).map _ else _) = _
        rw [if_pos rfl, sessions_of_session? found]
        rfl
    | create id navigation => cases answered
    | refresh id => cases answered
    | remove id =>
      rw [start] at answered
      split at answered <;> cases answered
    | apply id =>
      rw [start, withSession] at answered
      split at answered
      · dsimp only at answered
        split at answered <;> cases answered
      · cases answered
    | more id =>
      rw [start, withSession] at answered
      split at answered
      · split at answered <;> cases answered
      · cases answered
    | _ =>
      rw [start, withSession] at answered
      split at answered <;> cases answered
  | refreshing id =>
    rw [step, withSession] at answered
    split at answered <;> cases answered
  | loading id ticket =>
    exact ⟨id, (session_of_shown (Task.done.inj answered)).imp fun _ known => ⟨rfl, known⟩⟩
  | continuing id ticket =>
    exact ⟨id, (session_of_shown (Task.done.inj answered)).imp fun _ known => ⟨rfl, known⟩⟩
  | viewing id => exact ⟨id, (session_of_viewed answered).imp fun _ known => ⟨rfl, known⟩⟩
  | showing id =>
    exact ⟨id, (session_of_shown (Task.done.inj answered)).imp fun _ known => ⟨rfl, known⟩⟩
  | done answer => cases pending

end Registry

end HostDashboard
