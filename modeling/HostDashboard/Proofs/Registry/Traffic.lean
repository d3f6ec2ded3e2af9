/-
**Operations that overlap.**

Any number of operations on any number of sessions are under way at the same time, and each takes its
locked steps whenever it comes to it; what becomes of its requests is up to the search API. `Traffic` is
the registry with the tasks that are under way, and with a record, the desk, of every session.

* `Traffic.after` is the traffic after a move, `Traffic.run` after all the moves of a list;
* `Kept` ties the record to the rest. The tickets that a desk has out are exactly those that tasks hold,
  so every desk is reached in an orderly way, and all that was proved of reachable desks holds here;
* while the results of an open session are not for the state in its link, one of the tasks is about to
  begin a refresh (`Kept.waiting`);
* `Traffic.desk_induction`: what the steps of a session keep holds of every desk in every run, and the
  steps may be taken to bring only what the search API answered (`Session.Step.Fetched`).
-/

import HostDashboard.Proofs.Registry.Turn
import HostDashboard.Proofs.Session.Settled

namespace HostDashboard

/-- What comes back with a step is what became of the requests that its ticket stands for. -/
def Session.Step.Fetched (client : Client) (searchLimit : Nat) : Session.Step → Prop
  | .completeRefresh ticket data => ∃ deliveries,
    data = Data.ofDeliveries client ticket.navigation searchLimit deliveries
  | .completeMore ticket batch => ∃ deliveries,
    batch = Registry.batch client searchLimit ticket deliveries
  | _ => True

/-- The sessions, all that is under way, and a record of every session. -/
structure Traffic where
  registry : Registry := {}
  tasks : List Task := []
  desks : SessionId → Option Desk := fun _ => none

inductive Move where
  | call (operation : Operation)
  /-- The task at a place takes a step, after what became of its requests. -/
  | step (place : Nat) (deliveries : List Delivery)
  | elapse (nanoseconds : Nat)
  | evictIdle (seconds : Nat)

/-- A continuation that begins leaves the refreshes alone. -/
theorem Desk.refreshes_beginMore (desk : Desk) :
    (desk.after .beginMore).refreshes = desk.refreshes := by
  rw [Desk.after]
  split <;> rfl

namespace Traffic

/-- The traffic after the task at a place has taken a step. -/
def afterStep (traffic : Traffic) (client : Client) (searchLimit place : Nat) (task : Task)
    (deliveries : List Delivery) : Traffic where
  registry := (traffic.registry.step client searchLimit deliveries task).1
  tasks := traffic.tasks.set place (traffic.registry.step client searchLimit deliveries task).2
  desks := Moment.record .openAt Desk.after traffic.desks
    (traffic.registry.moment? client searchLimit deliveries task)

def after (client : Client) (searchLimit : Nat) (traffic : Traffic) : Move → Traffic
  | .call operation => { traffic with tasks := traffic.tasks ++ [.start operation] }
  | .step place deliveries =>
    match traffic.tasks[place]? with
    | some task => traffic.afterStep client searchLimit place task deliveries
    | none => traffic
  | .elapse nanoseconds => { traffic with registry := traffic.registry.elapse nanoseconds }
  | .evictIdle seconds => { traffic with registry := traffic.registry.evictIdle seconds }

/-- The traffic after some moves, from the beginning. -/
def run (client : Client) (searchLimit : Nat) (moves : List Move) : Traffic :=
  moves.foldl (after client searchLimit) {}

/-- What desks have out is exactly what tasks hold. -/
def Balanced {Ticket : Type} [DecidableEq Ticket] (out : Desk → List Ticket)
    (hold : SessionId → Ticket → Task) (tasks : List Task) (desks : SessionId → Option Desk) : Prop :=
  ∀ id ticket, tasks.count (hold id ticket) = (((desks id).map out).getD []).count ticket

/-- A move begins a continuation of a session, or tries to. -/
def Begins (traffic : Traffic) (id : SessionId) : Move → Prop
  | .step place _ => traffic.tasks[place]? = some (.start (.more id))
  | _ => False

/-- The record fits the sessions and the tasks. -/
structure Kept (traffic : Traffic) : Prop where
  sessions : ∀ id, traffic.registry.sessions id = (traffic.desks id).map Desk.session
  refreshes : Balanced Desk.refreshes .loading traffic.tasks traffic.desks
  continuations : Balanced Desk.continuations .continuing traffic.tasks traffic.desks
  reachable : ∀ id desk, traffic.desks id = some desk → desk.Reachable
  /-- A session whose results are not for the state in its link is about to be refreshed. -/
  waiting : ∀ id desk, traffic.desks id = some desk →
    traffic.registry.Closed id ∨ desk.Settled ∨ .refreshing id ∈ traffic.tasks

variable {traffic : Traffic} {client : Client} {searchLimit : Nat} {deliveries : List Delivery}

theorem after_step {place : Nat} {task : Task} (found : traffic.tasks[place]? = some task) :
    traffic.after client searchLimit (.step place deliveries) =
      traffic.afterStep client searchLimit place task deliveries := by
  rw [Traffic.after, found]

/-! ### Tasks by place -/

section Tasks

variable {tasks : List Task} {place : Nat} {task : Task} (next : Task)
  (found : tasks[place]? = some task)

include found

theorem count_set_add (counted : Task) :
    (tasks.set place next).count counted + (if task = counted then 1 else 0) =
      tasks.count counted + (if next = counted then 1 else 0) := by
  obtain ⟨inside, same⟩ := List.getElem?_eq_some_iff.mp found
  have leaves : task = counted → 0 < tasks.count counted := by
    intro equal
    rw [List.count_pos_iff, ← equal, ← same]
    exact List.getElem_mem inside
  rw [List.count_set inside, same]
  simp only [beq_iff_eq]
  split
  · have := leaves ‹_›
    omega
  · omega

/-- A task stays under way while another takes a step. -/
theorem mem_set_of_ne {kept : Task} (member : kept ∈ tasks) (other : task ≠ kept) :
    kept ∈ tasks.set place next := by
  have balance := count_set_add next found kept
  have positive := List.count_pos_iff.mpr member
  rw [if_neg other] at balance
  rw [← List.count_pos_iff]
  omega

theorem next_mem_set : next ∈ tasks.set place next :=
  List.mem_set (List.getElem?_eq_some_iff.mp found).1 next

end Tasks

/-! ### Tickets that are out -/

namespace Balanced

variable {Ticket : Type} [DecidableEq Ticket] {out : Desk → List Ticket}
  {hold : SessionId → Ticket → Task} {tasks : List Task} {desks : SessionId → Option Desk}
  (balanced : Balanced out hold tasks desks)

include balanced

theorem desk_of_held {id : SessionId} {ticket : Ticket} (member : hold id ticket ∈ tasks) :
    ∃ desk, desks id = some desk ∧ ticket ∈ out desk := by
  rw [← List.count_pos_iff, balanced id ticket, List.count_pos_iff] at member
  cases there : desks id with
  | none =>
    rw [there] at member
    cases member
  | some desk =>
    rw [there] at member
    exact ⟨desk, rfl, member⟩

theorem call {task : Task} (plain : ∀ id ticket, task ≠ hold id ticket) :
    Balanced out hold (tasks ++ [task]) desks := by
  intro id ticket
  rw [List.count_append, List.count_singleton, beq_false_of_ne (plain id ticket), balanced id ticket]
  rfl

section Step

variable {place : Nat} {task next : Task} (found : tasks[place]? = some task)

include found

/-- No ticket is handed out and none comes back. -/
theorem plain (taskPlain : ∀ id ticket, task ≠ hold id ticket)
    (nextPlain : ∀ id ticket, next ≠ hold id ticket) :
    Balanced out hold (tasks.set place next) desks := by
  intro id ticket
  have balance := count_set_add next found (hold id ticket)
  rw [if_neg (taskPlain id ticket), if_neg (nextPlain id ticket), balanced id ticket] at balance
  exact balance

theorem grown (injective : ∀ {id ticket id' ticket'}, hold id ticket = hold id' ticket' →
      id = id' ∧ ticket = ticket') {touched : SessionId} {desk : Desk} {ticket : Ticket}
    (there : desks touched = some desk) {step : Session.Step}
    (grows : out (desk.after step) = out desk ++ [ticket])
    (taskPlain : ∀ id ticket, task ≠ hold id ticket) (holds : next = hold touched ticket) :
    Balanced out hold (tasks.set place next)
      (Moment.record .openAt Desk.after desks (some (touched, .stepped step))) := by
  intro id other
  have balance := count_set_add next found (hold id other)
  rw [if_neg (taskPlain id other), Nat.add_zero, balanced id other] at balance
  rw [balance, holds, Moment.record]
  by_cases same : id = touched
  · subst same
    rw [if_pos rfl, there, Option.map_some, Option.map_some, Option.map_some, Option.getD_some,
      Option.getD_some, grows, List.count_append, List.count_singleton]
    congr 1
    simp only [beq_iff_eq]
    by_cases equal : ticket = other
    · rw [if_pos (equal ▸ rfl), if_pos equal]
    · rw [if_neg fun held => equal (injective held).2, if_neg equal]
  · rw [if_neg same, if_neg fun held => same (injective held).1.symm, Nat.add_zero]

theorem shrunk (injective : ∀ {id ticket id' ticket'}, hold id ticket = hold id' ticket' →
      id = id' ∧ ticket = ticket') {touched : SessionId} {desk : Desk} {ticket : Ticket}
    (there : desks touched = some desk) {step : Session.Step}
    (shrinks : out (desk.after step) = (out desk).erase ticket)
    (holds : task = hold touched ticket) (nextPlain : ∀ id ticket, next ≠ hold id ticket) :
    Balanced out hold (tasks.set place next)
      (Moment.record .openAt Desk.after desks (some (touched, .stepped step))) := by
  intro id other
  have balance := count_set_add next found (hold id other)
  rw [if_neg (nextPlain id other), Nat.add_zero, balanced id other, holds] at balance
  rw [Moment.record]
  by_cases same : id = touched
  · subst same
    rw [there, Option.map_some, Option.getD_some] at balance
    rw [if_pos rfl, there, Option.map_some, Option.map_some, Option.getD_some, shrinks,
      List.count_erase]
    simp only [beq_iff_eq]
    by_cases equal : ticket = other
    · rw [if_pos (equal ▸ rfl)] at balance
      rw [if_pos equal]
      omega
    · rw [if_neg fun held => equal (injective held).2] at balance
      rw [if_neg equal]
      omega
  · rw [if_neg fun held => same (injective held).1.symm, Nat.add_zero] at balance
    rw [if_neg same]
    exact balance

end Step

theorem opened (touched : SessionId) {navigation : Navigation} (none : out (.openAt navigation) = []) :
    Balanced out hold tasks
      (Moment.record .openAt Desk.after desks (some (touched, .opened navigation))) := by
  intro id ticket
  rw [balanced id ticket, Moment.record]
  by_cases same : id = touched
  · subst same
    rw [if_pos rfl]
    cases desks id with
    | none => rw [Option.map_some, Option.getD_none, none]; rfl
    | some desk => rfl
  · rw [if_neg same]

theorem untouched {touched : SessionId} {step : Session.Step}
    (alone : ∀ desk, desks touched = some desk → out (desk.after step) = out desk) :
    Balanced out hold tasks
      (Moment.record .openAt Desk.after desks (some (touched, .stepped step))) := by
  intro id ticket
  rw [balanced id ticket, Moment.record]
  by_cases same : id = touched
  · subst same
    rw [if_pos rfl]
    cases there : desks id with
    | none => rfl
    | some desk =>
      rw [Option.map_some, Option.map_some, Option.map_some, alone desk there]
  · rw [if_neg same]

end Balanced

/-! ### What a step of a task keeps -/

namespace Kept

variable (kept : traffic.Kept)

include kept

theorem desk_of_session? {id : SessionId} {session : Session}
    (found : traffic.registry.session? id = some session) :
    ∃ desk, traffic.desks id = some desk ∧ desk.session = session := by
  have there := Registry.sessions_of_session? found
  rw [kept.sessions] at there
  exact Option.map_eq_some_iff.mp there

section Turn

variable {place : Nat} {task next : Task} {moment : Option (SessionId × Moment)}
  (found : traffic.tasks[place]? = some task)
  (turn : Registry.Turn traffic.registry client searchLimit deliveries task moment next)

include found turn

/-- Refreshes are out exactly as often as tasks hold them. -/
theorem refreshes_step : Balanced Desk.refreshes .loading (traffic.tasks.set place next)
    (Moment.record .openAt Desk.after traffic.desks moment) := by
  have noTicket {task : Task} (plain : task.hasTicket = false) :
      ∀ id ticket, task ≠ .loading id ticket := by
    rintro _ _ rfl
    cases plain
  have otherTicket (id : SessionId) (ticket : MoreTicket) :
      ∀ name back, Task.continuing id ticket ≠ .loading name back := fun _ _ => nofun
  cases turn with
  | quiet plain nextPlain unfound =>
    exact kept.refreshes.plain found (noTicket plain) (noTicket nextPlain)
  | opened id navigation =>
    exact (kept.refreshes.plain found (noTicket rfl) (noTicket rfl)).opened id rfl
  | edited held nextPlain followed =>
    exact (kept.refreshes.plain found (noTicket rfl) (noTicket nextPlain)).untouched fun _ _ => rfl
  | begun held =>
    obtain ⟨desk, there, rfl⟩ := kept.desk_of_session? held
    exact kept.refreshes.grown found Task.loading.inj there rfl (noTicket rfl) rfl
  | loaded id ticket answer =>
    obtain ⟨desk, there, _⟩ := kept.refreshes.desk_of_held (List.mem_of_getElem? found)
    exact kept.refreshes.shrunk found Task.loading.inj there rfl rfl (noTicket rfl)
  | refused held refused =>
    exact (kept.refreshes.plain found (noTicket rfl) (noTicket rfl)).untouched
      fun desk _ => desk.refreshes_beginMore
  | @handed id _ ticket held handed =>
    exact (kept.refreshes.plain found (noTicket rfl) (otherTicket id ticket)).untouched
      fun desk _ => desk.refreshes_beginMore
  | continued id ticket answer =>
    exact (kept.refreshes.plain found (otherTicket id ticket) (noTicket rfl)).untouched
      fun _ _ => rfl

theorem continuations_step : Balanced Desk.continuations .continuing (traffic.tasks.set place next)
    (Moment.record .openAt Desk.after traffic.desks moment) := by
  have noTicket {task : Task} (plain : task.hasTicket = false) :
      ∀ id ticket, task ≠ .continuing id ticket := by
    rintro _ _ rfl
    cases plain
  have otherTicket (id : SessionId) (ticket : RefreshTicket) :
      ∀ name back, Task.loading id ticket ≠ .continuing name back := fun _ _ => nofun
  cases turn with
  | quiet plain nextPlain unfound =>
    exact kept.continuations.plain found (noTicket plain) (noTicket nextPlain)
  | opened id navigation =>
    exact (kept.continuations.plain found (noTicket rfl) (noTicket rfl)).opened id rfl
  | edited held nextPlain followed =>
    exact (kept.continuations.plain found (noTicket rfl) (noTicket nextPlain)).untouched
      fun _ _ => rfl
  | @begun id session held =>
    exact (kept.continuations.plain found (noTicket rfl)
      (otherTicket id session.beginRefresh.2)).untouched fun _ _ => rfl
  | loaded id ticket answer =>
    exact (kept.continuations.plain found (otherTicket id ticket) (noTicket rfl)).untouched
      fun _ _ => rfl
  | refused held refused =>
    refine (kept.continuations.plain found (noTicket rfl) (noTicket rfl)).untouched
      fun desk there => ?_
    obtain ⟨same, equal, rfl⟩ := kept.desk_of_session? held
    rw [there] at equal
    cases equal
    rw [Desk.after, refused]
  | handed held handed =>
    obtain ⟨desk, there, rfl⟩ := kept.desk_of_session? held
    refine kept.continuations.grown found Task.continuing.inj there ?_ (noTicket rfl) rfl
    rw [Desk.after, handed]
  | continued id ticket answer =>
    obtain ⟨desk, there, _⟩ := kept.continuations.desk_of_held (List.mem_of_getElem? found)
    exact kept.continuations.shrunk found Task.continuing.inj there rfl rfl (noTicket rfl)

/-- What a moment brings back comes back under a ticket that is out, and was fetched for it; and a
continuation begins only when it is asked for. -/
theorem allows {id : SessionId} {step : Session.Step} (own : moment = some (id, .stepped step))
    {desk : Desk} (there : traffic.desks id = some desk) :
    desk.Allows step ∧ step.Fetched client searchLimit ∧
      (step = .beginMore → task = .start (.more id)) := by
  cases turn with
  | quiet => cases own
  | opened => cases own
  | edited =>
    cases own
    exact ⟨trivial, trivial, nofun⟩
  | begun =>
    cases own
    exact ⟨trivial, trivial, nofun⟩
  | refused =>
    cases own
    exact ⟨trivial, trivial, fun _ => rfl⟩
  | handed =>
    cases own
    exact ⟨trivial, trivial, fun _ => rfl⟩
  | loaded id ticket answer =>
    cases own
    obtain ⟨same, held, out⟩ := kept.refreshes.desk_of_held (List.mem_of_getElem? found)
    rw [there] at held
    cases held
    exact ⟨out, ⟨deliveries, rfl⟩, nofun⟩
  | continued id ticket answer =>
    cases own
    obtain ⟨same, held, out⟩ := kept.continuations.desk_of_held (List.mem_of_getElem? found)
    rw [there] at held
    cases held
    exact ⟨out, ⟨deliveries, rfl⟩, nofun⟩

/-- A session that is not settled after the step was about to be refreshed, or is so now. -/
theorem waiting_step {nextRegistry : Registry}
    (follows : Registry.Follows traffic.registry nextRegistry moment) {id : SessionId} {desk : Desk}
    (there : Moment.record .openAt Desk.after traffic.desks moment id = some desk) :
    nextRegistry.Closed id ∨ desk.Settled ∨ .refreshing id ∈ traffic.tasks.set place next := by
  -- a session that waited before the step still waits, unless the step is the refresh it waits for
  have pending (before : Desk) (held : traffic.desks id = some before)
      (settles : before.Settled → desk.Settled) (other : task ≠ .refreshing id) :
      nextRegistry.Closed id ∨ desk.Settled ∨ .refreshing id ∈ traffic.tasks.set place next := by
    rcases kept.waiting id before held with closed | settled | waits
    · exact .inl (follows.closed id closed)
    · exact .inr (.inl (settles settled))
    · exact .inr (.inr (mem_set_of_ne next found waits other))
  rcases Moment.record_cases there with ⟨held, untouched⟩ | ⟨navigation, own, rfl⟩ |
    ⟨before, step, own, held, rfl⟩
  · by_cases refreshing : task = .refreshing id
    · subst refreshing
      cases turn with
      | quiet plain nextPlain unfound =>
        have isThere : traffic.registry.sessions id = some desk.session := by
          rw [kept.sessions, held]
          rfl
        exact .inl (follows.closed id (Registry.closed_of_session? isThere (unfound id rfl)))
      | begun => exact absurd rfl (untouched .beginRefresh)
    · exact pending desk held (fun settled => settled) refreshing
  · cases turn with
    | opened =>
      cases own
      exact .inr (.inr (next_mem_set _ found))
    | _ => cases own
  · have settles (unchanged : (before.session.after step).navigation = before.session.navigation) :
        before.Settled → (before.after step).Settled := fun settled => settled.after unchanged
    cases turn with
    | quiet => cases own
    | opened => cases own
    | begun =>
      cases own
      exact .inr (.inl before.settled_beginRefresh)
    | edited isThere nextPlain followed =>
      cases own
      obtain ⟨same, equal, rfl⟩ := kept.desk_of_session? isThere
      rw [held] at equal
      cases equal
      rcases followed with rfl | unchanged
      · exact .inr (.inr (next_mem_set _ found))
      · exact pending before held (settles unchanged) nofun
    | _ =>
      cases own
      refine pending before held (settles ?_) ?_
      · refine (before.session.after_navigation_panel ?_).1
        exact fun _ => nofun
      · exact nofun

end Turn

/-- **Where a desk comes from after a move**: it was there, a session was opened, or its session took
a step. -/
theorem desk_after {move : Move} {id : SessionId} {desk : Desk}
    (there : (traffic.after client searchLimit move).desks id = some desk) :
    traffic.desks id = some desk ∨ (∃ navigation, desk = .openAt navigation) ∨
      ∃ before step, traffic.desks id = some before ∧ desk = before.after step ∧
        before.Allows step ∧ step.Fetched client searchLimit ∧
          (step = .beginMore → traffic.Begins id move) := by
  cases move with
  | step place deliveries =>
    cases found : traffic.tasks[place]? with
    | none =>
      rw [Traffic.after, found] at there
      exact .inl there
    | some task =>
      rw [after_step found] at there
      rcases Moment.record_cases there with ⟨held, _⟩ | ⟨navigation, _, opened⟩ |
        ⟨before, step, own, held, stepped⟩
      · exact .inl held
      · exact .inr (.inl ⟨navigation, opened⟩)
      · have turn := traffic.registry.step_turn client searchLimit deliveries task
        obtain ⟨allowed, fetched, begins⟩ := kept.allows found turn own held
        refine .inr (.inr ⟨before, step, held, stepped, allowed, fetched, fun begin => ?_⟩)
        rw [Begins, found, begins begin]
  | call operation => exact .inl there
  | elapse nanoseconds => exact .inl there
  | evictIdle seconds => exact .inl there

/-- A change of the registry that no session sees keeps the record. -/
theorem unseen {next : Registry} (follows : Registry.Follows traffic.registry next none) :
    Kept { traffic with registry := next } := by
  refine ⟨fun id => ?_, kept.refreshes, kept.continuations, kept.reachable, fun id desk there => ?_⟩
  · show next.sessions id = _
    rw [follows.sessions]
    exact kept.sessions id
  · exact (kept.waiting id desk there).imp_left (follows.closed id)

/-- **Every move keeps the record.** -/
theorem after (client : Client) (searchLimit : Nat) (move : Move) :
    (traffic.after client searchLimit move).Kept := by
  have reachable : ∀ id desk, (traffic.after client searchLimit move).desks id = some desk →
      desk.Reachable := by
    intro id desk there
    rcases kept.desk_after there with held | ⟨navigation, rfl⟩ | ⟨before, step, held, rfl, allowed, _⟩
    · exact kept.reachable id desk held
    · exact Desk.reachable_openAt navigation
    · exact (kept.reachable id before held).after allowed
  cases move with
  | call operation =>
    refine ⟨kept.sessions, kept.refreshes.call fun _ _ => nofun,
      kept.continuations.call fun _ _ => nofun, reachable, fun id desk there => ?_⟩
    exact (kept.waiting id desk there).imp_right (Or.imp_right (List.mem_append_left _))
  | step place deliveries =>
    cases found : traffic.tasks[place]? with
    | none =>
      rw [Traffic.after, found]
      exact kept
    | some task =>
      rw [after_step found] at reachable ⊢
      have turn := traffic.registry.step_turn client searchLimit deliveries task
      have follows := traffic.registry.step_follows client searchLimit deliveries task
      refine ⟨fun id => ?_, kept.refreshes_step found turn, kept.continuations_step found turn,
        reachable, fun id desk there => kept.waiting_step found turn follows there⟩
      -- the record of the desks, seen through their sessions, is the record of the sessions
      have natural (moment : Option (SessionId × Moment)) :
          (Moment.record .openAt Desk.after traffic.desks moment id).map Desk.session =
            Moment.record .openAt Session.after (fun id => (traffic.desks id).map Desk.session)
              moment id :=
        Moment.map_record Desk.session (fun _ => rfl) Desk.after_session traffic.desks moment id
      show (traffic.registry.step client searchLimit deliveries task).1.sessions id = _
      rw [follows.sessions, funext kept.sessions]
      exact (natural _).symm
  | elapse nanoseconds => exact kept.unseen (.elapse _ nanoseconds)
  | evictIdle seconds => exact kept.unseen (.evictIdle _ seconds)

end Kept

theorem kept_initial : Kept {} where
  sessions := fun _ => rfl
  refreshes := fun _ _ => rfl
  continuations := fun _ _ => rfl
  reachable := fun _ _ there => by cases there
  waiting := fun _ _ there => by cases there

/-! ### Runs -/

/-- **What holds at the beginning and is kept by every move holds after every run.** -/
theorem run_induction {motive : Traffic → Prop} {client : Client} {searchLimit : Nat}
    (moves : List Move) (start : motive {})
    (keeps : ∀ traffic move, motive traffic → motive (traffic.after client searchLimit move)) :
    motive (run client searchLimit moves) := by
  unfold run
  generalize ({} : Traffic) = traffic at start ⊢
  induction moves generalizing traffic with
  | nil => exact start
  | cons move rest ih => exact ih (traffic.after client searchLimit move) (keeps traffic move start)

theorem run_concat (client : Client) (searchLimit : Nat) (moves : List Move) (move : Move) :
    run client searchLimit (moves ++ [move]) =
      (run client searchLimit moves).after client searchLimit move := by
  unfold run
  rw [List.foldl_append]
  rfl

/-- **The record fits after every run.** -/
theorem kept_run (client : Client) (searchLimit : Nat) (moves : List Move) :
    (run client searchLimit moves).Kept :=
  run_induction moves kept_initial fun _ move kept => kept.after client searchLimit move

/-- **What the steps of a session keep holds of every desk**, when all that comes back was fetched. -/
theorem desk_induction {motive : Desk → Prop} {client : Client} {searchLimit : Nat}
    {moves : List Move} {id : SessionId} {desk : Desk}
    (there : (run client searchLimit moves).desks id = some desk)
    (start : ∀ navigation, motive (.openAt navigation))
    (keeps : ∀ desk step, desk.Reachable → motive desk → desk.Allows step →
      step.Fetched client searchLimit → motive (desk.after step)) : motive desk := by
  -- the record is carried along, because only its desks are known to be reachable
  have all : (run client searchLimit moves).Kept ∧
      ∀ id desk, (run client searchLimit moves).desks id = some desk → motive desk := by
    refine run_induction (motive := fun traffic => traffic.Kept ∧
      ∀ id desk, traffic.desks id = some desk → motive desk) moves
      ⟨kept_initial, fun _ _ there => by cases there⟩ ?_
    intro traffic move ⟨kept, known⟩
    refine ⟨kept.after client searchLimit move, fun id desk there => ?_⟩
    rcases kept.desk_after there with held | ⟨navigation, rfl⟩ |
      ⟨before, step, held, rfl, allowed, fetched, _⟩
    · exact known id desk held
    · exact start navigation
    · exact keeps before step (kept.reachable id before held) (known id before held) allowed fetched
  exact all.2 id desk there

end Traffic

end HostDashboard
