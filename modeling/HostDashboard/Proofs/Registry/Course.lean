/-
**The course of an operation.**

Between its call and its answer an operation may be handed one ticket, and what its steps find settles
which one. If the first step calls for a refresh (`Registry.callsForRefresh`), the operation is handed the
ticket of the refresh, unless its session is not open when this is to begin. If it asks for more hosts, it
is handed the continuation that the session has for it. No other operation is handed anything.

* `Call.refresh?` and `Call.continuation?` say which ticket is due to a call, by what its steps found;
* `Course` has a case for everything that can be said of a call whose operation is under way or has an
  answer. `Course.after` says that every step of its task stays on the course. An operation that has a
  ticket is never told that its session is unknown, since the session is kept while the ticket is out;
* `Ticket.Asks` and `Call.Asks` say what has to be asked of the API, in terms of the state in the ticket.
  A state with a malformed autonomous system asks for nothing (`Ticket.asks_requests`);
* `Course.asks`: on its course a call asks for what its tickets ask for.
-/

import HostDashboard.Proofs.Filter.Sent
import HostDashboard.Proofs.Registry.Turn
import HostDashboard.Proofs.Session.LoadStates

namespace HostDashboard

/-! ### Calls -/

namespace Task

/-- The ticket under which its requests are sent. -/
def ticket? : Task → Option Ticket
  | loading _ ticket => some (.inl ticket)
  | continuing _ ticket => some (.inr ticket)
  | _ => none

/-- It is the first task of its operation. -/
def isFirst : Task → Bool
  | start _ => true
  | _ => false

def isRefreshing : Task → Bool
  | refreshing _ => true
  | _ => false

/-- Nothing is left to do but to show a session, or to answer. -/
def isQuiet : Task → Bool
  | viewing _ | showing _ | done _ => true
  | start _ | refreshing _ | loading .. | continuing .. => false

end Task

/-- The first step of an operation calls for a refresh: it opens a session, asks for the refresh itself, or
changes what an open session shows. -/
def Registry.callsForRefresh (registry : Registry) : Operation → Bool
  | .create .. | .refresh _ => true
  | .navigate id _ | .search id _ => (registry.session? id).isSome
  | .apply id => (registry.session? id).any fun session => session.apply.2
  | .view _ | .toggle .. | .discard _ | .goTo .. | .more _ | .remove _ => false

/-- An operation that was called, with what became of it. -/
structure Call where
  operation : Operation
  /-- The registry that its first step found. -/
  seen : Option Registry := none
  /-- The registry that was found when a refresh was to begin. -/
  looked : Option Registry := none
  /-- The tickets that it was handed. -/
  tickets : List Ticket := []

namespace Call

def ofOperation (operation : Operation) : Call := { operation := operation }

/-- Its first step called for a refresh. -/
def isDue (call : Call) : Bool := call.seen.any fun registry => registry.callsForRefresh call.operation

/-- The refresh that is due to it: it called for one, and its session was open when this was to begin. -/
def refresh? (call : Call) : Option RefreshTicket :=
  if call.isDue then
    (call.looked.bind (·.session? call.operation.target)).map (·.beginRefresh.2)
  else none

/-- The continuation that is due to it: it asked for more hosts, and its open session had one for it. -/
def continuation? (call : Call) : Option MoreTicket :=
  match call.operation with
  | .more id => (call.seen.bind (·.session? id)).bind (·.beginMore.2)
  | _ => none

/-- The call after its task has taken a step to the next one. -/
def after (call : Call) (registry : Registry) (task next : Task) : Call where
  operation := call.operation
  seen := if task.isFirst then some registry else call.seen
  looked := if task.isRefreshing then some registry else call.looked
  tickets := call.tickets ++ next.ticket?.toList

variable {call : Call}

theorem more_of_continuation? {ticket : MoreTicket} (own : call.continuation? = some ticket) :
    call.operation = .more call.operation.target := by
  obtain ⟨operation, seen, looked, tickets⟩ := call
  cases operation with
  | more id => rfl
  | _ => cases own

/-- A call that called for a refresh asks for no more hosts. -/
theorem continuation?_of_isDue (due : call.isDue = true) : call.continuation? = none := by
  obtain ⟨operation, seen, looked, tickets⟩ := call
  cases operation with
  | more id => cases seen <;> cases due
  | _ => rfl

theorem refresh?_of_not_isDue (due : call.isDue = false) : call.refresh? = none := by
  rw [refresh?, due]
  rfl

theorem refresh?_of_looked (looked : call.looked = none) : call.refresh? = none := by
  rw [refresh?, looked]
  exact ite_self none

theorem isDue_of_seen (seen : call.seen = none) : call.isDue = false := by
  rw [isDue, seen]
  rfl

theorem continuation?_of_seen (seen : call.seen = none) : call.continuation? = none := by
  rw [continuation?, seen]
  split <;> rfl

/-- An answer after the first step changes nothing, unless a refresh was to begin. -/
theorem after_done (call : Call) (registry : Registry) {task : Task} (later : task.isFirst = false)
    (other : task.isRefreshing = false) (answer : Answer) :
    call.after registry task (.done answer) = call := by
  unfold after
  rw [later, other]
  exact congrArg (Call.mk call.operation call.seen call.looked) (List.append_nil call.tickets)

end Call

/-- How far a call has come, by the task that it has now. -/
inductive Course (call : Call) : Task → Prop
  | called (seen : call.seen = none) (looked : call.looked = none) (tickets : call.tickets = []) :
      Course call (.start call.operation)
  | quiet {task : Task} (quiet : task.isQuiet = true) (seen : call.seen.isSome)
      (due : call.isDue = false) (none : call.continuation? = none) (tickets : call.tickets = []) :
      Course call task
  | due (due : call.isDue = true) (looked : call.looked = none) (tickets : call.tickets = []) :
      Course call (.refreshing call.operation.target)
  /-- Its session was not open when the refresh was to begin. -/
  | missed (due : call.isDue = true) (looked : call.looked.isSome) (none : call.refresh? = none)
      (tickets : call.tickets = []) :
      Course call (.done (.failed (Registry.unknown call.operation.target)))
  | loading (due : call.isDue = true) (ticket : RefreshTicket) (own : call.refresh? = some ticket)
      (tickets : call.tickets = [.inl ticket]) :
      Course call (.loading call.operation.target ticket)
  | loaded (due : call.isDue = true) (ticket : RefreshTicket) (own : call.refresh? = some ticket)
      (tickets : call.tickets = [.inl ticket]) (view : DashboardView) :
      Course call (.done (.dashboard view))
  | continuing (due : call.isDue = false) (ticket : MoreTicket)
      (own : call.continuation? = some ticket) (tickets : call.tickets = [.inr ticket]) :
      Course call (.continuing call.operation.target ticket)
  | continued (due : call.isDue = false) (ticket : MoreTicket)
      (own : call.continuation? = some ticket) (tickets : call.tickets = [.inr ticket])
      (view : DashboardView) : Course call (.done (.dashboard view))

namespace Course

variable {registry : Registry} {client : Client} {searchLimit : Nat} {deliveries : List Delivery}
  {call : Call} {task : Task}

/-- The first step of an operation. -/
theorem start (registry : Registry) (looked : call.looked = none) (tickets : call.tickets = []) :
    Course (call.after registry (.start call.operation) (registry.start call.operation).2)
      (registry.start call.operation).2 := by
  obtain ⟨operation, seen, _, _⟩ := call
  cases looked
  cases tickets
  have due (next : Task) :
      Call.isDue (.after ⟨operation, seen, none, []⟩ registry (.start operation) next) =
        registry.callsForRefresh operation := rfl
  cases operation with
  | create id navigation => exact .due rfl rfl rfl
  | refresh id => exact .due rfl rfl rfl
  | navigate id navigation =>
    rw [Registry.start, Registry.withSession]
    cases found : registry.session? id with
    | none => exact .quiet rfl rfl ((due _).trans (by simp [Registry.callsForRefresh, found])) rfl rfl
    | some session => exact .due ((due _).trans (by simp [Registry.callsForRefresh, found])) rfl rfl
  | search id typed =>
    rw [Registry.start, Registry.withSession]
    cases found : registry.session? id with
    | none => exact .quiet rfl rfl ((due _).trans (by simp [Registry.callsForRefresh, found])) rfl rfl
    | some session => exact .due ((due _).trans (by simp [Registry.callsForRefresh, found])) rfl rfl
  | apply id =>
    rw [Registry.start, Registry.withSession]
    cases found : registry.session? id with
    | none => exact .quiet rfl rfl ((due _).trans (by simp [Registry.callsForRefresh, found])) rfl rfl
    | some session =>
      have due (next : Task) := (due next).trans
        (show registry.callsForRefresh (.apply id) = session.apply.2 by
          simp [Registry.callsForRefresh, found])
      dsimp only
      cases changed : session.apply.2 with
      | true => exact .due ((due _).trans changed) rfl rfl
      | false => exact .quiet rfl rfl ((due _).trans changed) rfl rfl
  | more id =>
    rw [Registry.start, Registry.withSession]
    have own (next : Task) :
        Call.continuation? (.after ⟨.more id, seen, none, []⟩ registry (.start (.more id)) next) =
          (registry.session? id).bind (·.beginMore.2) := rfl
    cases found : registry.session? id with
    | none => exact .quiet rfl rfl rfl ((own _).trans (by rw [found]; rfl)) rfl
    | some session =>
      have own (next : Task) := (own next).trans
        (show (registry.session? id).bind (·.beginMore.2) = session.beginMore.2 by rw [found]; rfl)
      dsimp only
      cases handed : session.beginMore.2 with
      | none => exact .quiet rfl rfl rfl ((own _).trans handed) rfl
      | some ticket => exact .continuing rfl ticket ((own _).trans handed) rfl
  | remove id =>
    rw [Registry.start]
    split <;> exact .quiet rfl rfl rfl rfl rfl
  | _ =>
    rw [Registry.start, Registry.withSession]
    split <;> exact .quiet rfl rfl rfl rfl rfl

/-- A refresh begins, if its session is still open. -/
theorem begin (registry : Registry) (due : call.isDue = true) (tickets : call.tickets = []) :
    let task := Task.refreshing call.operation.target
    Course (call.after registry task (registry.step client searchLimit deliveries task).2)
      (registry.step client searchLimit deliveries task).2 := by
  intro task
  have own (next : Task) : (call.after registry task next).refresh? =
      (registry.session? call.operation.target).map (·.beginRefresh.2) := if_pos due
  have handed (next : Task) : (call.after registry task next).tickets = next.ticket?.toList := by
    show call.tickets ++ _ = _
    rw [tickets, List.nil_append]
  rw [Registry.step]
  cases found : registry.session? call.operation.target with
  | none =>
    rw [Registry.withSession_of_none found]
    exact .missed due rfl ((own _).trans (by rw [found]; rfl)) (handed _)
  | some session =>
    rw [Registry.withSession_of_some found]
    refine .loading ?_ session.beginRefresh.2 ((own _).trans (by rw [found]; rfl)) (handed _)
    exact due

/-- What shows a session that has taken a step is its page. -/
theorem shown_of_stepped {next : Registry} {id : SessionId} {step : Session.Step}
    (follows : Registry.Follows registry next (some (id, .stepped step)))
    (there : (registry.sessions id).isSome) : ∃ view, next.shown id = .dashboard view := by
  have kept : (next.sessions id).isSome := by
    rw [follows.sessions, Moment.record, if_pos rfl, Option.isSome_map]
    exact there
  rw [Registry.sessions, Option.isSome_map] at kept
  obtain ⟨entry, held⟩ := Option.isSome_iff_exists.mp kept
  exact ⟨entry.session.view, by rw [Registry.shown, held]⟩

/-- **Every step of a task stays on the course of its call**, as long as a session is kept for the tickets
that are out. -/
theorem after (course : Course call task)
    (there : task.ticket?.isSome → (registry.sessions call.operation.target).isSome) :
    Course (call.after registry task (registry.step client searchLimit deliveries task).2)
      (registry.step client searchLimit deliveries task).2 := by
  have follows := registry.step_follows client searchLimit deliveries task
  have ended : task.isFirst = false → task.isRefreshing = false → ∀ answer,
      call.after registry task (.done answer) = call := call.after_done registry
  cases course with
  | called seen looked tickets => exact start registry looked tickets
  | quiet quiet seen due none tickets =>
    have stays (answer : Answer) (later : task.isFirst = false) (other : task.isRefreshing = false) :
        Course (call.after registry task (.done answer)) (.done answer) := by
      rw [ended later other]
      exact .quiet rfl seen due none tickets
    cases task with
    | viewing id =>
      rw [Registry.step, Registry.withSession]
      split <;> exact stays _ rfl rfl
    | showing id => exact stays _ rfl rfl
    | done answer => exact stays answer rfl rfl
    | _ => cases quiet
  | due due looked tickets => exact begin registry due tickets
  | missed due looked none tickets =>
    rw [Registry.step, ended rfl rfl]
    exact .missed due looked none tickets
  | loading due ticket own tickets =>
    obtain ⟨view, shown⟩ := shown_of_stepped follows (there rfl)
    have answered : (registry.step client searchLimit deliveries
        (.loading call.operation.target ticket)).2 = .done (.dashboard view) :=
      congrArg Task.done shown
    rw [answered, ended rfl rfl]
    exact .loaded due ticket own tickets view
  | loaded due ticket own tickets view =>
    rw [Registry.step, ended rfl rfl]
    exact .loaded due ticket own tickets view
  | continuing due ticket own tickets =>
    obtain ⟨view, shown⟩ := shown_of_stepped follows (there rfl)
    have answered : (registry.step client searchLimit deliveries
        (.continuing call.operation.target ticket)).2 = .done (.dashboard view) :=
      congrArg Task.done shown
    rw [answered, ended rfl rfl]
    exact .continued due ticket own tickets view
  | continued due ticket own tickets view =>
    rw [Registry.step, ended rfl rfl]
    exact .continued due ticket own tickets view

end Course

/-! ### What a ticket asks for -/

namespace Ticket

def navigation : Ticket → Navigation
  | .inl ticket => ticket.navigation
  | .inr ticket => ticket.navigation

/-- The requests that are sent under a ticket. -/
def requests (limit : Nat) : Ticket → List ApiRequest
  | .inl ticket => Data.requests ticket.navigation limit
  | .inr ticket =>
    match ticket.navigation.filter with
    | .ok filter => [.search filter limit (some ticket.pageToken)]
    | .error _ => []

/-- What a ticket has to ask for. -/
inductive Asks (limit : Nat) : Ticket → List ApiRequest → Prop
  /-- A refresh asks for hosts, from the first one on, and for counts. -/
  | refresh {ticket : RefreshTicket} {filter : Filter}
      (valid : ∀ shown ∈ ticket.navigation.selections.asns, ∃ number, Asn.parse shown = .ok number)
      (built : ticket.navigation.filter = .ok filter) :
      Asks limit (.inl ticket) [.search filter limit none, .counts filter]
  /-- A continuation asks for hosts from its token on. -/
  | continuation {ticket : MoreTicket} {filter : Filter}
      (valid : ∀ shown ∈ ticket.navigation.selections.asns, ∃ number, Asn.parse shown = .ok number)
      (built : ticket.navigation.filter = .ok filter) :
      Asks limit (.inr ticket) [.search filter limit (some ticket.pageToken)]
  | malformed {ticket : Ticket}
      (bad : ∃ shown ∈ ticket.navigation.selections.asns, ∃ failure, Asn.parse shown = .error failure) :
      Asks limit ticket []

/-- The generation of the refresh, if it is one. -/
def refreshed : Ticket → List Nat
  | .inl ticket => [ticket.generation]
  | .inr _ => []

variable {limit : Nat} {ticket : Ticket}

/-- **A ticket asks for what it has to.** -/
theorem asks_requests (limit : Nat) (ticket : Ticket) : ticket.Asks limit (ticket.requests limit) := by
  rcases ticket.navigation.filter_cases with ⟨filter, built, valid⟩ |
    ⟨shown, member, failure, bad, failed⟩
  · cases ticket with
    | inl ticket =>
      have asked : requests limit (.inl ticket) = [.search filter limit none, .counts filter] := by
        simp only [navigation] at built
        simp only [requests, Data.requests, built, Data.requestsFor]
      rw [asked]
      exact .refresh valid built
    | inr ticket =>
      have asked : requests limit (.inr ticket) =
          [.search filter limit (some ticket.pageToken)] := by
        simp only [navigation] at built
        simp only [requests, built]
      rw [asked]
      exact .continuation valid built
  · have silent : ticket.requests limit = [] := by
      cases ticket <;> simp only [navigation] at failed <;> simp only [requests, Data.requests, failed]
    rw [silent]
    exact .malformed ⟨shown, member, failure, bad⟩

/-- All requests under a ticket name the filter of its state, in the same text. -/
theorem Asks.filter {asked : List ApiRequest} (asks : ticket.Asks limit asked) :
    ∀ request ∈ asked, ∃ filter, ticket.navigation.filter = .ok filter ∧
      request.parameters.lookup "filter".toList = some filter.param.toList := by
  cases asks with
  | refresh valid built =>
    intro request member
    rcases List.mem_pair.mp member with rfl | rfl
    · exact ⟨_, built, rfl⟩
    · exact ⟨_, built, rfl⟩
  | continuation valid built =>
    intro request member
    rw [List.mem_singleton.mp member]
    exact ⟨_, built, rfl⟩
  | malformed bad => exact fun _ member => absurd member List.not_mem_nil

end Ticket

/-- The requests of a task are those of its ticket. -/
theorem Task.requests_eq (limit : Nat) (task : Task) :
    task.requests limit = task.ticket?.toList.flatMap (Ticket.requests limit) := by
  cases task with
  | loading id ticket => exact (List.flatMap_singleton _ _).symm
  | continuing id ticket => exact (List.flatMap_singleton _ _).symm
  | _ => rfl

/-- The generations of the refreshes of a session that a call was handed. -/
def Call.generations (id : SessionId) (call : Call) : List Nat :=
  if call.operation.target = id then call.tickets.flatMap Ticket.refreshed else []

/-- A call is handed the refreshes that its tasks are. -/
theorem Call.generations_after (call : Call) (id : SessionId) (registry : Registry) (task next : Task) :
    (call.after registry task next).generations id = call.generations id ++
      if call.operation.target = id then next.ticket?.toList.flatMap Ticket.refreshed else [] := by
  unfold generations
  show (if call.operation.target = id then _ else _) = _
  split
  · exact List.flatMap_append
  · rfl

/-- What a call has to ask for. -/
inductive Call.Asks (limit : Nat) (call : Call) : List ApiRequest → Prop
  | silent (refresh : call.refresh? = none) (continuation : call.continuation? = none) :
      Asks limit call []
  | refresh {ticket : RefreshTicket} (own : call.refresh? = some ticket) {asked : List ApiRequest}
      (asks : Ticket.Asks limit (.inl ticket) asked) : Asks limit call asked
  | continuation {ticket : MoreTicket} (own : call.continuation? = some ticket)
      {asked : List ApiRequest} (asks : Ticket.Asks limit (.inr ticket) asked) : Asks limit call asked

/-- A call that did not call for a refresh and does not ask for more hosts asks for nothing. -/
theorem Call.Asks.of_idle {limit : Nat} {call : Call} {asked : List ApiRequest}
    (asks : call.Asks limit asked) (due : call.isDue = false)
    (other : call.operation ≠ .more call.operation.target) : asked = [] := by
  cases asks with
  | silent => rfl
  | refresh own =>
    rw [Call.refresh?_of_not_isDue due] at own
    cases own
  | continuation own => exact absurd (Call.more_of_continuation? own) other

namespace Course

variable {call : Call} {task : Task} (course : Course call task)

include course

/-- **On its course a call asks for what its tickets ask for.** -/
theorem asks (limit : Nat) :
    call.Asks limit (call.tickets.flatMap (Ticket.requests limit)) := by
  have asks := Ticket.asks_requests limit
  cases course with
  | called seen looked tickets =>
    rw [tickets]
    exact .silent (Call.refresh?_of_looked looked) (Call.continuation?_of_seen seen)
  | quiet quiet seen due none tickets =>
    rw [tickets]
    exact .silent (Call.refresh?_of_not_isDue due) none
  | due due looked tickets =>
    rw [tickets]
    exact .silent (Call.refresh?_of_looked looked) (Call.continuation?_of_isDue due)
  | missed due looked none tickets =>
    rw [tickets]
    exact .silent none (Call.continuation?_of_isDue due)
  | loading due ticket own tickets =>
    rw [tickets, List.flatMap_singleton]
    exact .refresh own (asks _)
  | loaded due ticket own tickets view =>
    rw [tickets, List.flatMap_singleton]
    exact .refresh own (asks _)
  | continuing due ticket own tickets =>
    rw [tickets, List.flatMap_singleton]
    exact .continuation own (asks _)
  | continued due ticket own tickets view =>
    rw [tickets, List.flatMap_singleton]
    exact .continuation own (asks _)

/-- Until its first step a call is where it began. -/
theorem start_of_seen (seen : call.seen = none) : task = .start call.operation := by
  have due := Call.isDue_of_seen seen
  have none := Call.continuation?_of_seen seen
  cases course with
  | called => rfl
  | quiet quiet isSeen =>
    rw [seen] at isSeen
    cases isSeen
  | continuing _ ticket own => cases none.symm.trans own
  | continued _ ticket own => cases none.symm.trans own
  | due isDue => cases due.symm.trans isDue
  | missed isDue => cases due.symm.trans isDue
  | loading isDue => cases due.symm.trans isDue
  | loaded isDue => cases due.symm.trans isDue

/-- A call that called for a refresh is about to begin it, or has looked for its session. -/
theorem refreshing_of_looked (due : call.isDue = true) (looked : call.looked = none) :
    task = .refreshing call.operation.target := by
  have none := Call.refresh?_of_looked looked
  cases course with
  | called seen => cases due.symm.trans (Call.isDue_of_seen seen)
  | quiet quiet seen notDue => cases due.symm.trans notDue
  | due => rfl
  | missed isDue hasLooked =>
    rw [looked] at hasLooked
    cases hasLooked
  | loading isDue ticket own => cases none.symm.trans own
  | loaded isDue ticket own => cases none.symm.trans own
  | continuing notDue => cases due.symm.trans notDue
  | continued notDue => cases due.symm.trans notDue

/-- A call that is told that its session is unknown has no ticket. -/
theorem tickets_of_unknown
    (told : task = .done (.failed (Registry.unknown call.operation.target))) : call.tickets = [] := by
  cases course with
  | quiet quiet seen due none tickets => exact tickets
  | missed due looked none tickets => exact tickets
  | _ => cases told

end Course

end HostDashboard
