/-
**Operations on sessions, one locked step at a time.**

An operation locks a session only for moments: a refresh takes a ticket, leaves the session to others
while it talks to the search API, and locks it again to apply what came. A `Task` says what an
operation does next, and `Registry.step` does it; between two steps of one operation steps of others may
come.

* `Task.requests` are the requests that a task has to send before its step;
* `Registry.perform` runs an operation from beginning to end with nothing in between.
-/

import HostDashboard.Registry.Basic

namespace HostDashboard

/-- What can be asked of the registry. -/
inductive Operation where
  /-- Open a session under a fresh name and refresh it. -/
  | create (id : SessionId) (navigation : Navigation)
  | view (id : SessionId)
  | refresh (id : SessionId)
  | navigate (id : SessionId) (navigation : Navigation)
  | search (id : SessionId) (typed : String)
  | toggle (id : SessionId) (category : Category) (value : String)
  | discard (id : SessionId)
  | apply (id : SessionId)
  | goTo (id : SessionId) (page : Int)
  | more (id : SessionId)
  | remove (id : SessionId)
  deriving DecidableEq, Repr

inductive Answer where
  | dashboard (view : DashboardView)
  | panel (view : PanelView)
  /-- The session was there, or not. -/
  | removed (existed : Bool)
  | failed (failure : Failure)
  deriving DecidableEq

/-- What an operation does next. -/
inductive Task where
  /-- Its first step. -/
  | start (operation : Operation)
  /-- Find the session again and begin a refresh. -/
  | refreshing (id : SessionId)
  /-- Apply what the requests of a refresh brought. -/
  | loading (id : SessionId) (ticket : RefreshTicket)
  /-- Apply what the request of a continuation brought. -/
  | continuing (id : SessionId) (ticket : MoreTicket)
  /-- Find the session again and show it. -/
  | viewing (id : SessionId)
  /-- Show a session that is already at hand. -/
  | showing (id : SessionId)
  /-- Nothing: there is an answer. -/
  | done (answer : Answer)
  deriving DecidableEq

namespace Task

/-- The requests that have to be sent before the next step. -/
def requests (searchLimit : Nat) : Task → List ApiRequest
  | loading _ ticket => Data.requests ticket.navigation searchLimit
  | continuing _ ticket =>
    match ticket.navigation.filter with
    | .ok filter => [.search filter searchLimit (some ticket.pageToken)]
    | .error _ => []
  | _ => []

/-- The answer, if there is one. -/
def answer? : Task → Option Answer
  | done answer => some answer
  | _ => none

end Task

namespace Registry

/-- The batch that a continuation brought. -/
def batch (client : Client) (searchLimit : Nat) (ticket : MoreTicket)
    (deliveries : List Delivery) : Batch :=
  match ticket.navigation.filter with
  | .error failure => .error failure.message
  | .ok filter =>
    match client.searchResult (.search filter searchLimit (some ticket.pageToken))
        (deliveries.head?.getD Data.missing) with
    | .ok found => .ok (found.hosts, found.nextPageToken)
    | .error failure => .error failure.message

/-- Does something with an open session, or fails. -/
def withSession (registry : Registry) (id : SessionId) (next : Session → Registry × Task) :
    Registry × Task :=
  match registry.session? id with
  | some session => next session
  | none => (registry, .done (.failed (unknown id)))

/-- The page of a session that is at hand, open or closed. -/
def shown (registry : Registry) (id : SessionId) : Answer :=
  match registry.entry? id with
  | some entry => .dashboard entry.session.view
  | none => .failed (unknown id)

/-- The first step of an operation. -/
def start (registry : Registry) : Operation → Registry × Task
  | .create id navigation => (registry.add id (.openAt navigation), .refreshing id)
  | .view id => registry.withSession id fun session =>
    (registry.touch id, .done (.dashboard session.view))
  | .refresh id => (registry, .refreshing id)
  | .navigate id navigation => registry.withSession id fun _ =>
    (registry.update id (·.navigate navigation), .refreshing id)
  | .search id typed => registry.withSession id fun _ =>
    (registry.update id (·.submitQuery typed), .refreshing id)
  | .toggle id category value => registry.withSession id fun session =>
    ((registry.update id (·.toggle category value)).touch id,
      .done (.panel (session.toggle category value).panelView))
  | .discard id => registry.withSession id fun session =>
    (registry.update id Session.discard, .done (.panel session.discard.panelView))
  | .apply id => registry.withSession id fun session =>
    (registry.update id (·.apply.1), if session.apply.2 then .refreshing id else .viewing id)
  | .goTo id page => registry.withSession id fun session =>
    ((registry.update id (·.goTo page)).touch id, .done (.dashboard (session.goTo page).view))
  | .more id => registry.withSession id fun session =>
    match session.beginMore.2 with
    | some ticket => ((registry.update id (·.beginMore.1)).touch id, .continuing id ticket)
    | none => (registry, .showing id)
  | .remove id =>
    match registry.session? id with
    | some _ => (registry.close id, .done (.removed true))
    | none => (registry, .done (.removed false))

/-- One locked step of an operation, after what became of the requests of its task. -/
def step (registry : Registry) (client : Client) (searchLimit : Nat) (deliveries : List Delivery) :
    Task → Registry × Task
  | .start operation => registry.start operation
  | .refreshing id => registry.withSession id fun session =>
    ((registry.update id (·.beginRefresh.1)).touch id, .loading id session.beginRefresh.2)
  | .loading id ticket =>
    let data := Data.ofDeliveries client ticket.navigation searchLimit deliveries
    let applied := registry.update id fun session =>
      (session.completeRefresh ticket.generation data).1
    (applied, .done (applied.shown id))
  | .continuing id ticket =>
    let batch := batch client searchLimit ticket deliveries
    let applied := registry.update id fun session => (session.completeMore ticket batch).1
    (applied, .done (applied.shown id))
  | .viewing id => registry.withSession id fun session =>
    (registry.touch id, .done (.dashboard session.view))
  | .showing id => (registry, .done (registry.shown id))
  | .done answer => (registry, .done answer)

/-- At most so many steps lie between the beginning of an operation and its answer. -/
def greatestSteps : Nat := 4

/-- Runs a task for some steps, sending its requests through `send`. -/
def run {m : Type → Type} [Monad m] (client : Client) (searchLimit : Nat)
    (send : ApiRequest → m Delivery) : Nat → Registry → Task → m (Registry × Task)
  | 0, registry, task => return (registry, task)
  | steps + 1, registry, task => do
    let deliveries ← (task.requests searchLimit).mapM send
    let (registry, task) := registry.step client searchLimit deliveries task
    run client searchLimit send steps registry task

/-- Runs an operation from beginning to end. -/
def perform {m : Type → Type} [Monad m] (registry : Registry) (client : Client)
    (searchLimit : Nat) (send : ApiRequest → m Delivery) (operation : Operation) :
    m (Registry × Answer) := do
  let (registry, task) ← run client searchLimit send greatestSteps registry (.start operation)
  return (registry, task.answer?.getD (.failed (.io "unfinished")))

end Registry

end HostDashboard
