/-
**Requests on the wire.**

A task sends its requests one by one, whenever it comes to it, and while they are under way other tasks may
take steps and send theirs. `Wire` is the traffic with the requests that still have to be sent and with a log
of those that were.

To find an open session and to lock it is one step here. An operation that found its session before it was
closed and locks it after might as well have come first, since closing leaves the session itself alone.

* `Wire.after` is the wire after a signal, a move of the traffic or one request that is sent; a task takes no
  step before its own requests have been sent;
* `Wire.runs_alone`: an operation that is performed with nothing in between is one of the runs on the wire,
  and the log notes what it sends, in order.
-/

import HostDashboard.Proofs.Registry.Course
import HostDashboard.Proofs.Registry.Traffic

namespace HostDashboard

/-- The sessions and the operations on them, with the requests that they send. Every operation has one
place, in the list of calls and in that of the tasks. -/
structure Wire where
  traffic : Traffic := {}
  calls : List Call := []
  /-- The requests that still have to be sent, with the places that they are from. -/
  unsent : List (Nat × ApiRequest) := []
  /-- The requests that were sent. -/
  log : List (Nat × ApiRequest) := []

inductive Signal where
  | move (move : Move)
  /-- One of the requests that still have to be sent is. -/
  | send (index : Nat)

namespace Wire

/-- The requests from a place. -/
def of (place : Nat) (requests : List (Nat × ApiRequest)) : List ApiRequest :=
  (requests.filter fun request => request.1 = place).map Prod.snd

/-- The wire after the task at a place has taken a step. -/
def afterStep (wire : Wire) (client : Client) (searchLimit place : Nat) (task : Task)
    (deliveries : List Delivery) : Wire :=
  let next := (wire.traffic.registry.step client searchLimit deliveries task).2
  { traffic := wire.traffic.afterStep client searchLimit place task deliveries
    calls := wire.calls.modify place fun call => call.after wire.traffic.registry task next
    unsent := wire.unsent ++ (next.requests searchLimit).map (place, ·)
    log := wire.log }

/-- A task takes no step before its requests have been sent. -/
def after (client : Client) (searchLimit : Nat) (wire : Wire) : Signal → Wire
  | .move (.call operation) =>
    { wire with
      traffic := wire.traffic.after client searchLimit (.call operation)
      calls := wire.calls ++ [.ofOperation operation] }
  | .move (.step place deliveries) =>
    match wire.traffic.tasks[place]? with
    | some task =>
      if of place wire.unsent = [] then wire.afterStep client searchLimit place task deliveries
      else wire
    | none => wire
  | .move move => { wire with traffic := wire.traffic.after client searchLimit move }
  | .send index =>
    match wire.unsent[index]? with
    | some request =>
      { wire with unsent := wire.unsent.eraseIdx index, log := wire.log ++ [request] }
    | none => wire

def runFrom (client : Client) (searchLimit : Nat) (wire : Wire) (signals : List Signal) : Wire :=
  signals.foldl (after client searchLimit) wire

/-- The wire after some signals, from the beginning. -/
def run (client : Client) (searchLimit : Nat) (signals : List Signal) : Wire :=
  runFrom client searchLimit {} signals

/-! ### Requests by place -/

theorem of_append (place : Nat) (first second : List (Nat × ApiRequest)) :
    of place (first ++ second) = of place first ++ of place second := by
  simp [of]

theorem of_map_same (place : Nat) (requests : List ApiRequest) :
    of place (requests.map (place, ·)) = requests := by
  simp [of, List.filter_map, Function.comp_def]

theorem of_map_other {place other : Nat} (different : other ≠ place) (requests : List ApiRequest) :
    of place (requests.map (other, ·)) = [] := by
  simp [of, List.filter_map, Function.comp_def, different]

theorem mem_of {place : Nat} {requests : List (Nat × ApiRequest)} {request : ApiRequest} :
    request ∈ of place requests ↔ (place, request) ∈ requests := by
  simp [of]

/-! ### An operation on its own -/

theorem runFrom_append (client : Client) (searchLimit : Nat) (wire : Wire) (first second : List Signal) :
    runFrom client searchLimit wire (first ++ second) =
      runFrom client searchLimit (runFrom client searchLimit wire first) second :=
  List.foldl_append

/-- Sends a request, and notes it. -/
def noted (answer : ApiRequest → Delivery) (request : ApiRequest) :
    StateM (List ApiRequest) Delivery := do
  modify (· ++ [request])
  return answer request

theorem mapM_noted (answer : ApiRequest → Delivery) (requests log : List ApiRequest) :
    (requests.mapM (noted answer)).run log = (requests.map answer, log ++ requests) := by
  induction requests generalizing log with
  | nil =>
    rw [List.append_nil]
    rfl
  | cons request rest ih =>
    simp [noted, ih]
    rfl

/-- A step of the program sends the requests of its task and then takes the step. -/
theorem run_noted (client : Client) (searchLimit : Nat) (answer : ApiRequest → Delivery) (steps : Nat)
    (registry : Registry) (task : Task) (before : List ApiRequest) :
    (Registry.run client searchLimit (noted answer) (steps + 1) registry task).run before =
      let result := registry.step client searchLimit ((task.requests searchLimit).map answer) task
      (Registry.run client searchLimit (noted answer) steps result.1 result.2).run
        (before ++ task.requests searchLimit) := by
  rw [Registry.run, StateT.run_bind, mapM_noted]
  rfl

/-- What a task has to send is sent before anything else happens. -/
theorem send_all (client : Client) (searchLimit : Nat) (wire : Wire)
    (others own : List (Nat × ApiRequest)) (unsent : wire.unsent = others ++ own) :
    runFrom client searchLimit wire (List.replicate own.length (.send others.length)) =
      { wire with unsent := others, log := wire.log ++ own } := by
  induction own generalizing wire with
  | nil =>
    rw [List.append_nil] at unsent ⊢
    rw [← unsent]
    rfl
  | cons request rest ih =>
    have found : wire.unsent[others.length]? = some request := by simp [unsent]
    have first : wire.after client searchLimit (.send others.length) =
        { wire with unsent := others ++ rest, log := wire.log ++ [request] } := by
      rw [after, found]
      simp [unsent, List.eraseIdx_append_of_length_le]
    show runFrom client searchLimit (wire.after client searchLimit (.send others.length)) _ = _
    rw [first, ih _ rfl, List.append_assoc]
    rfl

/-- A task sends all its requests and then takes its step. -/
theorem send_step (client : Client) (searchLimit : Nat) {wire : Wire} {place : Nat} {task : Task}
    {others own : List (Nat × ApiRequest)} (found : wire.traffic.tasks[place]? = some task)
    (unsent : wire.unsent = others ++ own) (apart : of place others = [])
    (deliveries : List Delivery) :
    ∃ signals, runFrom client searchLimit wire signals =
      { wire with unsent := others, log := wire.log ++ own }.afterStep client searchLimit place task
        deliveries := by
  refine ⟨List.replicate own.length (.send others.length) ++ [.move (.step place deliveries)], ?_⟩
  have sent := send_all client searchLimit wire others own unsent
  unfold runFrom at sent ⊢
  rw [List.foldl_append, sent, List.foldl_cons, List.foldl_nil, after, found]
  exact if_pos apart

/-- **What the program does when nothing comes in between is a run on the wire.** The task at a place, by
itself, sends its requests and takes its step, again and again. -/
theorem runs_alone (client : Client) (searchLimit : Nat) (answer : ApiRequest → Delivery) (steps : Nat)
    {wire : Wire} {place : Nat} {task : Task} {others : List (Nat × ApiRequest)}
    (found : wire.traffic.tasks[place]? = some task)
    (unsent : wire.unsent = others ++ (task.requests searchLimit).map (place, ·))
    (apart : of place others = []) (before : List ApiRequest) :
    let result :=
      (Registry.run client searchLimit (noted answer) steps wire.traffic.registry task).run before
    ∃ signals sent, result.2 = before ++ sent ∧
      (runFrom client searchLimit wire signals).traffic.registry = result.1.1 ∧
      (runFrom client searchLimit wire signals).traffic.tasks[place]? = some result.1.2 ∧
      (runFrom client searchLimit wire signals).log = wire.log ++ sent.map (place, ·) := by
  induction steps generalizing wire task before with
  | zero =>
    exact ⟨[], [], (List.append_nil _).symm, rfl, found, (List.append_nil _).symm⟩
  | succ steps ih =>
    rw [run_noted]
    have inside := (List.getElem?_eq_some_iff.mp found).1
    obtain ⟨opening, first⟩ := send_step client searchLimit found unsent apart
      ((task.requests searchLimit).map answer)
    obtain ⟨signals, sent, noted, registry, tasks, log⟩ :=
      @ih (afterStep { wire with
          unsent := others
          log := wire.log ++ (task.requests searchLimit).map (place, ·) } client searchLimit place task
            ((task.requests searchLimit).map answer))
        _ (List.getElem?_set_self inside) rfl (before ++ task.requests searchLimit)
    refine ⟨opening ++ signals, task.requests searchLimit ++ sent, ?_, ?_, ?_, ?_⟩
    · rw [← List.append_assoc]
      exact noted
    · rw [runFrom_append, first]
      exact registry
    · rw [runFrom_append, first]
      exact tasks
    · rw [runFrom_append, first, log, List.map_append, ← List.append_assoc]
      rfl

end Wire

end HostDashboard
