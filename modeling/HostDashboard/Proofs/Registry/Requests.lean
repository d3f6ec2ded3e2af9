/-
**Which requests are sent.**

The API hears of a session only what its tickets stand for. A refresh that began for a state whose
autonomous systems are all numbers asks for hosts and for counts with one and the same filter, and a
continuation asks once for more hosts with its token; everything else stays silent.

* `Exact` ties the log to the calls. A step of a task keeps its parts one by one: the course of every call,
  the requests of its tickets, and the refreshes that every session has counted. What carries them is that
  a step changes what is known of its own place and of no other (`Exact.stepped`);
* `performs_alone`: what the program does is a run on the wire;
* `requests_exact` is the statement about all runs.
-/

import Mathlib.Data.List.Perm.Basic
import HostDashboard.Proofs.Registry.Wire

namespace HostDashboard

namespace Wire

/-- The generations of the refreshes of a session for which tickets were handed out. -/
def generations (wire : Wire) (id : SessionId) : List Nat :=
  wire.calls.flatMap (Call.generations id)

/-- How many refreshes a session has counted. -/
def counted (registry : Registry) (id : SessionId) : Nat :=
  ((registry.sessions id).map Session.generation).getD 0

/-- The tickets that were handed out at a place. -/
def tickets (wire : Wire) (place : Nat) : List Ticket := (wire.calls[place]?.map Call.tickets).getD []

/-- The log fits the calls. -/
structure Exact (searchLimit : Nat) (wire : Wire) : Prop where
  kept : wire.traffic.Kept
  length : wire.calls.length = wire.traffic.tasks.length
  course : ∀ (place : Nat) call task, wire.calls[place]? = some call →
    wire.traffic.tasks[place]? = some task → Course call task
  /-- What still has to be sent is from tasks that wait. -/
  waiting : ∀ request ∈ wire.unsent, ∃ task, wire.traffic.tasks[request.1]? = some task ∧
    task.ticket?.isSome
  requests : ∀ place, (of place (wire.log ++ wire.unsent)).Perm
    ((wire.tickets place).flatMap (Ticket.requests searchLimit))
  generations : ∀ id, (wire.generations id).Perm
    (List.range' 1 (counted wire.traffic.registry id))

/-- What an item that grows contributes goes to the end, up to the order. -/
theorem flatMap_modify {α β : Type} (f : α → List β) (change : α → α) {list : List α} {place : Nat}
    {item : α} {more : List β} (found : list[place]? = some item)
    (grows : f (change item) = f item ++ more) :
    ((list.modify place change).flatMap f).Perm (list.flatMap f ++ more) := by
  induction list generalizing place with
  | nil => cases found
  | cons first rest ih =>
    cases place with
    | zero =>
      cases found
      rw [List.modify_zero_cons, List.flatMap_cons, List.flatMap_cons, grows, List.append_assoc,
        List.append_assoc]
      exact List.perm_append_comm.append_left _
    | succ place =>
      rw [List.modify_succ_cons, List.flatMap_cons, List.flatMap_cons, List.append_assoc]
      exact (ih found).append_left _

/-! ### How many refreshes a step counts -/

/-- A moment that is no refresh of a session leaves its count. -/
theorem counted_record {sessions : SessionId → Option Session}
    {moment : Option (SessionId × Moment)} {id : SessionId}
    (other : moment ≠ some (id, .stepped .beginRefresh)) :
    ((Moment.record .openAt Session.after sessions moment id).map Session.generation).getD 0 =
      ((sessions id).map Session.generation).getD 0 := by
  match moment with
  | none => rfl
  | some (touched, .opened navigation) =>
    rw [Moment.record]
    by_cases same : id = touched
    · rw [if_pos same, ← same]
      cases sessions id <;> rfl
    · rw [if_neg same]
  | some (touched, .stepped step) =>
    rw [Moment.record]
    by_cases same : id = touched
    · subst same
      have plain : step.isRefresh = false := by
        cases step with
        | beginRefresh => exact absurd rfl other
        | _ => rfl
      rw [if_pos rfl, Option.map_map]
      congr 2
      funext session
      exact (session.after_generation step).trans (by rw [plain]; rfl)
    · rw [if_neg same]

end Wire

/-- **A step begins a refresh and is handed its ticket, or does neither.** -/
theorem Registry.Turn.refreshes {registry : Registry} {client : Client} {searchLimit : Nat}
    {deliveries : List Delivery} {task next : Task} {moment : Option (SessionId × Moment)}
    (turn : Registry.Turn registry client searchLimit deliveries task moment next) :
    (∃ id session, task = .refreshing id ∧ registry.session? id = some session ∧
        moment = some (id, .stepped .beginRefresh) ∧ next = .loading id session.beginRefresh.2) ∨
      (∀ id, moment ≠ some (id, .stepped .beginRefresh)) ∧
        next.ticket?.toList.flatMap Ticket.refreshed = [] := by
  have silent {task : Task} (plain : task.hasTicket = false) :
      task.ticket?.toList.flatMap Ticket.refreshed = [] := by
    cases task with
    | loading => cases plain
    | continuing => cases plain
    | _ => rfl
  cases turn with
  | quiet plain nextPlain unfound => exact .inr ⟨fun _ => nofun, silent nextPlain⟩
  | edited found nextPlain followed => exact .inr ⟨fun _ => nofun, silent nextPlain⟩
  | begun found => exact .inl ⟨_, _, rfl, found, rfl, rfl⟩
  | _ => exact .inr ⟨fun _ => nofun, rfl⟩

namespace Wire

namespace Exact

variable {wire : Wire} {client : Client} {searchLimit : Nat} {deliveries : List Delivery}

/-- A session is kept for every ticket that is out. -/
theorem session_of_ticket (kept : wire.traffic.Kept) {place : Nat} {call : Call} {task : Task}
    (found : wire.traffic.tasks[place]? = some task) (course : Course call task)
    (isTicket : task.ticket?.isSome) :
    (wire.traffic.registry.sessions call.operation.target).isSome := by
  have member := List.mem_of_getElem? found
  cases course with
  | loading due ticket own tickets =>
    obtain ⟨desk, there, _⟩ := kept.refreshes.desk_of_held member
    rw [kept.sessions, there]
    rfl
  | continuing due ticket own tickets =>
    obtain ⟨desk, there, _⟩ := kept.continuations.desk_of_held member
    rw [kept.sessions, there]
    rfl
  | quiet quiet =>
    cases task with
    | loading => cases quiet
    | continuing => cases quiet
    | _ => cases isTicket
  | _ => cases isTicket

variable (exact : wire.Exact searchLimit)

include exact

/-- Every task has a call. -/
theorem call_of_task {place : Nat} {task : Task}
    (found : wire.traffic.tasks[place]? = some task) : ∃ call, wire.calls[place]? = some call := by
  have inside := (List.getElem?_eq_some_iff.mp found).1
  rw [← exact.length] at inside
  exact ⟨_, List.getElem?_eq_getElem inside⟩

theorem called (operation : Operation) :
    (wire.after client searchLimit (.move (.call operation))).Exact searchLimit where
  kept := exact.kept.after client searchLimit (.call operation)
  length := by
    show (wire.calls ++ _).length = (wire.traffic.tasks ++ _).length
    rw [List.length_append, List.length_append, exact.length]
    rfl
  course := by
    intro place call task isCall isTask
    have isCall : (wire.calls ++ [.ofOperation operation])[place]? = some call := isCall
    have isTask : (wire.traffic.tasks ++ [.start operation])[place]? = some task := isTask
    by_cases old : place < wire.calls.length
    · rw [List.getElem?_append_left old] at isCall
      rw [List.getElem?_append_left (exact.length ▸ old)] at isTask
      exact exact.course place call task isCall isTask
    · rw [List.getElem?_append_right (Nat.le_of_not_lt old)] at isCall
      rw [List.getElem?_append_right (exact.length ▸ Nat.le_of_not_lt old), ← exact.length] at isTask
      cases List.mem_singleton.mp (List.mem_of_getElem? isCall)
      cases List.mem_singleton.mp (List.mem_of_getElem? isTask)
      exact .called rfl rfl rfl
  waiting := by
    intro request member
    obtain ⟨task, found, isTicket⟩ := exact.waiting request member
    have inside := (List.getElem?_eq_some_iff.mp found).1
    exact ⟨task, (List.getElem?_append_left inside).trans found, isTicket⟩
  requests := by
    intro place
    have same : (wire.after client searchLimit (.move (.call operation))).tickets place =
        wire.tickets place := by
      show ((wire.calls ++ [Call.ofOperation operation])[place]?.map Call.tickets).getD [] = _
      unfold tickets
      by_cases old : place < wire.calls.length
      · rw [List.getElem?_append_left old]
      · rw [List.getElem?_append_right (Nat.le_of_not_lt old),
          List.getElem?_eq_none (Nat.le_of_not_lt old)]
        cases place - wire.calls.length <;> rfl
    rw [same]
    exact exact.requests place
  generations := by
    intro id
    have none : Call.generations id (.ofOperation operation) = [] := by
      unfold Call.generations
      split <;> rfl
    show ((wire.calls ++ [Call.ofOperation operation]).flatMap (Call.generations id)).Perm _
    rw [List.flatMap_append, List.flatMap_singleton, none, List.append_nil]
    exact exact.generations id

section Step

variable {place : Nat} {task : Task} (found : wire.traffic.tasks[place]? = some task)

include found

theorem course_step (other : Nat) (call : Call) (theirs : Task)
    (isCall : (wire.afterStep client searchLimit place task deliveries).calls[other]? = some call)
    (isTask : (wire.afterStep client searchLimit place task deliveries).traffic.tasks[other]? =
      some theirs) : Course call theirs := by
  by_cases same : place = other
  · subst same
    obtain ⟨own, ownCall⟩ := exact.call_of_task found
    have course := exact.course place own task ownCall found
    have inside := (List.getElem?_eq_some_iff.mp found).1
    simp only [afterStep, List.getElem?_modify, ownCall, if_true, Option.map_eq_map,
      Option.map_some, Option.some.injEq] at isCall
    simp only [afterStep, Traffic.afterStep, List.getElem?_set, if_true, inside,
      Option.some.injEq] at isTask
    rw [← isCall, ← isTask]
    exact course.after (session_of_ticket exact.kept found course)
  · simp only [afterStep, List.getElem?_modify, same, if_false, id_map'] at isCall
    simp only [afterStep, Traffic.afterStep, List.getElem?_set, same, if_false] at isTask
    exact exact.course other call theirs isCall isTask

theorem waiting_step (idle : of place wire.unsent = []) (request : Nat × ApiRequest)
    (member : request ∈ (wire.afterStep client searchLimit place task deliveries).unsent) :
    ∃ theirs, (wire.afterStep client searchLimit place task deliveries).traffic.tasks[request.1]? =
      some theirs ∧ theirs.ticket?.isSome := by
  rcases List.mem_append.mp member with old | new
  · have other : place ≠ request.1 := by
      rintro rfl
      have listed := mem_of.mpr old
      rw [idle] at listed
      cases listed
    simpa only [afterStep, Traffic.afterStep, List.getElem?_set, other, if_false] using
      exact.waiting request old
  · obtain ⟨asked, listed, rfl⟩ := List.mem_map.mp new
    have inside := (List.getElem?_eq_some_iff.mp found).1
    refine ⟨_, List.getElem?_set_self inside, ?_⟩
    rw [Task.requests_eq] at listed
    cases isTicket : (wire.traffic.registry.step client searchLimit deliveries task).2.ticket? with
    | none =>
      rw [isTicket] at listed
      cases listed
    | some ticket => rfl

theorem requests_step (other : Nat) :
    let next := wire.afterStep client searchLimit place task deliveries
    (of other (next.log ++ next.unsent)).Perm
      ((next.tickets other).flatMap (Ticket.requests searchLimit)) := by
  intro next
  have sent : of other (next.log ++ next.unsent) = of other (wire.log ++ wire.unsent) ++
      of other (((wire.traffic.registry.step client searchLimit deliveries task).2.requests
        searchLimit).map (place, ·)) := by
    rw [← of_append, List.append_assoc]
    rfl
  rw [sent]
  by_cases same : place = other
  · subst same
    obtain ⟨own, ownCall⟩ := exact.call_of_task found
    have handed : next.tickets place = wire.tickets place ++
        (wire.traffic.registry.step client searchLimit deliveries task).2.ticket?.toList := by
      simp only [next, tickets, afterStep, List.getElem?_modify, ownCall, if_true,
        Option.map_eq_map, Option.map_some, Option.getD_some, Call.after]
    rw [handed, List.flatMap_append, of_map_same, Task.requests_eq]
    exact (exact.requests place).append_right _
  · have handed : next.tickets other = wire.tickets other := by
      simp only [next, tickets, afterStep, List.getElem?_modify, same, if_false, id_map']
    rw [handed, of_map_other same, List.append_nil]
    exact exact.requests other

theorem generations_step (id : SessionId) :
    let next := wire.afterStep client searchLimit place task deliveries
    (next.generations id).Perm (List.range' 1 (counted next.traffic.registry id)) := by
  intro next
  obtain ⟨own, ownCall⟩ := exact.call_of_task found
  have known := exact.generations id
  have grown := flatMap_modify (Call.generations id)
    (·.after wire.traffic.registry task
      (wire.traffic.registry.step client searchLimit deliveries task).2)
    ownCall (own.generations_after id _ _ _)
  have follows := wire.traffic.registry.step_follows client searchLimit deliveries task
  have counts : counted next.traffic.registry id = ((Moment.record .openAt Session.after
      wire.traffic.registry.sessions (wire.traffic.registry.moment? client searchLimit deliveries task)
      id).map Session.generation).getD 0 := by
    rw [← follows.sessions]
    rfl
  refine grown.trans ?_
  rw [counts]
  rcases (wire.traffic.registry.step_turn client searchLimit deliveries task).refreshes with
    ⟨touched, session, rfl, held, moment, loading⟩ | ⟨other, silent⟩
  · have target : touched = own.operation.target := by
      cases exact.course place own _ ownCall found with
      | due => rfl
      | quiet quiet => cases quiet
    rw [loading, moment, Moment.record, ← target]
    by_cases same : touched = id
    · subst same
      have before : counted wire.traffic.registry touched = session.generation := by
        rw [counted, Registry.sessions_of_session? held]
        rfl
      rw [before] at known
      rw [if_pos rfl, if_pos rfl, Registry.sessions_of_session? held]
      show (wire.generations touched ++ [session.generation + 1]).Perm
        (List.range' 1 (session.generation + 1))
      rw [List.range'_1_concat, Nat.add_comm 1]
      exact known.append_right _
    · rw [if_neg same, if_neg (Ne.symm same), List.append_nil]
      exact known
  · rw [counted_record (other id), silent, ite_self, List.append_nil]
    exact known

theorem stepped (idle : of place wire.unsent = []) :
    (wire.afterStep client searchLimit place task deliveries).Exact searchLimit where
  kept := by
    have kept := exact.kept.after client searchLimit (.step place deliveries)
    rw [Traffic.after_step found] at kept
    exact kept
  length := by
    show (wire.calls.modify place _).length = (wire.traffic.tasks.set place _).length
    rw [List.length_modify, List.length_set, exact.length]
  course := exact.course_step found
  waiting := exact.waiting_step found idle
  requests := exact.requests_step found
  generations := exact.generations_step found

end Step

/-- A change of the registry that no session sees. -/
theorem unseen {registry : Registry} (kept : { wire.traffic with registry }.Kept)
    (follows : Registry.Follows wire.traffic.registry registry none) :
    Exact searchLimit { wire with traffic := { wire.traffic with registry } } := by
  refine ⟨kept, exact.length, exact.course, exact.waiting, exact.requests, fun id => ?_⟩
  have same : counted registry id = counted wire.traffic.registry id := by
    unfold counted
    rw [follows.sessions]
    rfl
  show (wire.generations id).Perm (List.range' 1 (counted registry id))
  rw [same]
  exact exact.generations id

theorem sent {index : Nat} {request : Nat × ApiRequest} (found : wire.unsent[index]? = some request) :
    Exact searchLimit
      { wire with unsent := wire.unsent.eraseIdx index, log := wire.log ++ [request] } := by
  obtain ⟨inside, same⟩ := List.getElem?_eq_some_iff.mp found
  refine ⟨exact.kept, exact.length, exact.course, fun other member => ?_, fun place => ?_,
    exact.generations⟩
  · exact exact.waiting other (List.mem_of_mem_eraseIdx member)
  · have moved : (wire.log ++ [request] ++ wire.unsent.eraseIdx index).Perm
        (wire.log ++ wire.unsent) := by
      rw [List.append_assoc, ← same]
      exact (List.getElem_cons_eraseIdx_perm inside).append_left _
    exact ((moved.filter _).map _).trans (exact.requests place)

/-- **Every signal keeps the log exact.** -/
theorem after (client : Client) (signal : Signal) :
    (wire.after client searchLimit signal).Exact searchLimit := by
  cases signal with
  | move move =>
    cases move with
    | call operation => exact exact.called operation
    | step place deliveries =>
      cases found : wire.traffic.tasks[place]? with
      | none =>
        rw [Wire.after, found]
        exact exact
      | some task =>
        rw [Wire.after, found]
        dsimp only
        split
        · exact exact.stepped found ‹_›
        · exact exact
    | elapse nanoseconds =>
      exact exact.unseen (exact.kept.after client searchLimit (.elapse nanoseconds)) (.elapse _ _)
    | evictIdle seconds =>
      exact exact.unseen (exact.kept.after client searchLimit (.evictIdle seconds)) (.evictIdle _ _)
  | send index =>
    cases found : wire.unsent[index]? with
    | none =>
      rw [Wire.after, found]
      exact exact
    | some request =>
      rw [Wire.after, found]
      exact exact.sent found

variable {place : Nat}

theorem task_of_call {call : Call} (found : wire.calls[place]? = some call) :
    ∃ task, wire.traffic.tasks[place]? = some task := by
  have inside := (List.getElem?_eq_some_iff.mp found).1
  rw [exact.length] at inside
  exact ⟨_, List.getElem?_eq_getElem inside⟩

theorem requests_of_call {call : Call} (found : wire.calls[place]? = some call) :
    (of place (wire.log ++ wire.unsent)).Perm
      (call.tickets.flatMap (Ticket.requests searchLimit)) := by
  have known := exact.requests place
  rw [tickets, found] at known
  exact known

/-- A task that does not wait has sent everything. -/
theorem unsent_of_idle {task : Task} (found : wire.traffic.tasks[place]? = some task)
    (idle : task.ticket? = none) : of place wire.unsent = [] := by
  refine List.eq_nil_iff_forall_not_mem.mpr fun request listed => ?_
  obtain ⟨waiting, same, isTicket⟩ := exact.waiting _ (mem_of.mp listed)
  rw [found] at same
  cases same
  rw [idle] at isTicket
  cases isTicket

end Exact

theorem exact_initial (searchLimit : Nat) : Exact searchLimit {} where
  kept := Traffic.kept_initial
  length := rfl
  course := fun _ _ _ isCall => by cases isCall
  waiting := fun _ member => absurd member List.not_mem_nil
  requests := fun _ => .refl _
  generations := fun _ => .refl _

/-- **The log is exact after every run.** -/
theorem exact_run (client : Client) (searchLimit : Nat) (signals : List Signal) :
    (run client searchLimit signals).Exact searchLimit := by
  unfold run
  have start := exact_initial searchLimit
  generalize ({} : Wire) = wire at start ⊢
  induction signals generalizing wire with
  | nil => exact start
  | cons signal rest ih => exact ih _ (start.after client signal)

/-- **Whatever has happened on the wire, an operation that is performed with nothing in between is one way
for it to go on**: the sessions are then as the program leaves them, the task has the answer that the
program gives, and what the program sent is in the log. -/
theorem performs_alone (client : Client) (searchLimit : Nat) (signals : List Signal)
    (operation : Operation) (answer : ApiRequest → Delivery) :
    let wire := run client searchLimit signals
    let result :=
      (wire.traffic.registry.perform client searchLimit (noted answer) operation).run []
    ∃ later task, let next := run client searchLimit (signals ++ .move (.call operation) :: later)
      next.traffic.registry = result.1.1 ∧
        next.traffic.tasks[wire.traffic.tasks.length]? = some task ∧
        result.1.2 = task.answer?.getD (.failed (.io "unfinished")) ∧
        next.log = wire.log ++ result.2.map (wire.traffic.tasks.length, ·) := by
  intro wire result
  have exact : wire.Exact searchLimit := exact_run client searchLimit signals
  have apart : of wire.traffic.tasks.length wire.unsent = [] := by
    refine List.eq_nil_iff_forall_not_mem.mpr fun request listed => ?_
    obtain ⟨task, found, _⟩ := exact.waiting _ (mem_of.mp listed)
    exact absurd (List.getElem?_eq_some_iff.mp found).1 (Nat.lt_irrefl _)
  obtain ⟨later, sent, told, registry, tasks, log⟩ :=
    @runs_alone client searchLimit answer Registry.greatestSteps
      (wire.after client searchLimit (.move (.call operation))) _ _ wire.unsent
      List.getElem?_concat_length (List.append_nil _).symm apart []
  have next : run client searchLimit (signals ++ .move (.call operation) :: later) =
      runFrom client searchLimit (wire.after client searchLimit (.move (.call operation))) later :=
    runFrom_append client searchLimit {} signals _
  refine ⟨later, _, ?_, (congrArg (·.traffic.tasks[_]?) next).trans tasks, rfl, ?_⟩
  · rw [next]
    exact registry
  · rw [next, log]
    exact congrArg (wire.log ++ List.map _ ·) told.symm

/-- **Exactly the intended requests are sent.** Any operations run on any sessions, and take their steps and
send their requests in any order, whatever the API answers. Then a call has sent, or still has to send, what
the ticket that is due to it asks for, each request once; it has sent all of it when its task does not wait
any more. What is due is settled by what its steps found: before its first step it is where it began, and
after it has called for a refresh it is about to begin it. A call that did not call for a refresh and does
not ask for more hosts has sent nothing, nor has one that is told that its session is unknown. Every request
in the log is of a call and names the filter of the state in one of its tickets, and the refreshes among the
tickets are those that the sessions began, each once. -/
theorem requests_exact (client : Client) (searchLimit : Nat) (signals : List Signal) :
    let wire := run client searchLimit signals
    (∀ (place : Nat) call, wire.calls[place]? = some call →
      ∃ task asked, wire.traffic.tasks[place]? = some task ∧ call.Asks searchLimit asked ∧
        (of place (wire.log ++ wire.unsent)).Perm asked ∧
        (task.ticket? = none → (of place wire.log).Perm asked) ∧
        (call.seen = none → task = .start call.operation) ∧
        (call.isDue = true → call.looked = none → task = .refreshing call.operation.target) ∧
        (call.isDue = false → call.operation ≠ .more call.operation.target →
          of place wire.log = []) ∧
        (task = .done (.failed (Registry.unknown call.operation.target)) →
          of place wire.log = [])) ∧
    (∀ request ∈ wire.log, ∃ call ticket filter, wire.calls[request.1]? = some call ∧
      ticket ∈ call.tickets ∧ ticket.navigation.filter = .ok filter ∧
        request.2.parameters.lookup "filter".toList = some filter.param.toList) ∧
    ∀ id session, wire.traffic.registry.sessions id = some session →
      (wire.generations id).Perm (List.range' 1 session.generation) := by
  intro wire
  have exact : wire.Exact searchLimit := exact_run client searchLimit signals
  refine ⟨fun place call isCall => ?_, fun request member => ?_, fun id session there => ?_⟩
  · obtain ⟨task, isTask⟩ := exact.task_of_call isCall
    have course := exact.course place call task isCall isTask
    have asked := exact.requests_of_call isCall
    have none (silent : call.tickets.flatMap (Ticket.requests searchLimit) = []) :
        of place wire.log = [] := by
      rw [silent, of_append] at asked
      exact (List.append_eq_nil_iff.mp asked.eq_nil).1
    refine ⟨task, _, isTask, course.asks searchLimit, asked, fun idle => ?_, course.start_of_seen,
      course.refreshing_of_looked, fun due other => none ((course.asks searchLimit).of_idle due other),
      fun told => none (by rw [course.tickets_of_unknown told]; rfl)⟩
    rw [of_append, exact.unsent_of_idle isTask idle, List.append_nil] at asked
    exact asked
  · have asked : request.2 ∈ of request.1 (wire.log ++ wire.unsent) :=
      mem_of.mpr (List.mem_append_left _ member)
    obtain ⟨ticket, listed, among⟩ := List.mem_flatMap.mp ((exact.requests request.1).mem_iff.mp asked)
    obtain ⟨filter, built, named⟩ :=
      (Ticket.asks_requests searchLimit ticket).filter request.2 among
    cases isCall : wire.calls[request.1]? with
    | none =>
      rw [tickets, isCall] at listed
      cases listed
    | some call =>
      rw [tickets, isCall] at listed
      exact ⟨call, ticket, filter, rfl, listed, built, named⟩
  · have known := exact.generations id
    rw [counted, there] at known
    exact known

end Wire

end HostDashboard
