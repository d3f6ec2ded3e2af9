/-
**What happens to the sessions of a registry.**

A locked step of an operation touches at most one session, and does one thing to it: it opens it, or it
takes it through one step of its own. This is a `Moment`. What else a step changes, the time of the
last use and the mark of closed sessions, no session can see.

* `Moment.record` notes a moment in any family of states by name;
* `Registry.Follows` says that a registry has become another by a moment, and that no closed session has
  been opened again; there is one lemma for each way to change a registry;
* `Registry.moment?` tells the moment of a task, and `Registry.step_follows` says that it is right.
-/

import HostDashboard.Proofs.Session.Step
import HostDashboard.Registry.Operation

namespace HostDashboard

/-- What can happen to a session. -/
inductive Moment where
  | opened (navigation : Navigation)
  | stepped (step : Session.Step)

/-- States by name after a moment. A name that is already in use stays with its state. -/
def Moment.record {State : Type} (opened : Navigation → State)
    (stepped : State → Session.Step → State) (states : SessionId → Option State) :
    Option (SessionId × Moment) → SessionId → Option State
  | none, name => states name
  | some (id, .opened navigation), name =>
    if name = id then some ((states id).getD (opened navigation)) else states name
  | some (id, .stepped step), name =>
    if name = id then (states id).map (stepped · step) else states name

/-- **Where a state comes from**: it was there, a moment opened it, or a moment took it on by a step. -/
theorem Moment.record_cases {State : Type} {opened : Navigation → State}
    {stepped : State → Session.Step → State} {states : SessionId → Option State}
    {moment : Option (SessionId × Moment)} {id : SessionId} {state : State}
    (held : record opened stepped states moment id = some state) :
    (states id = some state ∧ ∀ step, moment ≠ some (id, .stepped step)) ∨
      (∃ navigation, moment = some (id, .opened navigation) ∧ state = opened navigation) ∨
        ∃ before step, moment = some (id, .stepped step) ∧ states id = some before ∧
          state = stepped before step := by
  match moment with
  | none => exact .inl ⟨held, nofun⟩
  | some (touched, .opened navigation) =>
    by_cases same : id = touched
    · subst same
      cases there : states id with
      | none =>
        rw [record, if_pos rfl, there] at held
        cases held
        exact .inr (.inl ⟨navigation, rfl, rfl⟩)
      | some before =>
        rw [record, if_pos rfl, there] at held
        exact .inl ⟨held, nofun⟩
    · rw [record, if_neg same] at held
      exact .inl ⟨held, nofun⟩
  | some (touched, .stepped step) =>
    by_cases same : id = touched
    · subst same
      rw [record, if_pos rfl] at held
      obtain ⟨before, there, rfl⟩ := Option.map_eq_some_iff.mp held
      exact .inr (.inr ⟨before, step, rfl, there, rfl⟩)
    · rw [record, if_neg same] at held
      refine .inl ⟨held, fun step equal => ?_⟩
      cases equal
      exact same rfl

/-- A view of the states is recorded as the states are. -/
theorem Moment.map_record {State Other : Type} (view : State → Other)
    {opened : Navigation → State} {stepped : State → Session.Step → State}
    {opened' : Navigation → Other} {stepped' : Other → Session.Step → Other}
    (ofOpened : ∀ navigation, view (opened navigation) = opened' navigation)
    (ofStepped : ∀ state step, view (stepped state step) = stepped' (view state) step)
    (states : SessionId → Option State) (moment : Option (SessionId × Moment)) (id : SessionId) :
    (record opened stepped states moment id).map view =
      record opened' stepped' (fun id => (states id).map view) moment id := by
  match moment with
  | none => rfl
  | some (touched, .opened navigation) =>
    rw [record, record]
    by_cases same : id = touched
    · rw [if_pos same, if_pos same]
      cases states touched with
      | none => exact congrArg some (ofOpened navigation)
      | some state => rfl
    · rw [if_neg same, if_neg same]
  | some (touched, .stepped step) =>
    rw [record, record]
    by_cases same : id = touched
    · rw [if_pos same, if_pos same, Option.map_map, Option.map_map]
      congr 1
      exact funext fun state => ofStepped state step
    · rw [if_neg same, if_neg same]

/-- What the first step of an operation does to an open session. -/
def Operation.step? : Operation → Option (SessionId × Session.Step)
  | .navigate id navigation => some (id, .edit (.navigate navigation))
  | .search id typed => some (id, .edit (.submitQuery typed))
  | .toggle id category value => some (id, .edit (.toggle category value))
  | .discard id => some (id, .edit .discard)
  | .apply id => some (id, .edit .apply)
  | .goTo id page => some (id, .edit (.goTo page))
  | .more id => some (id, .beginMore)
  | .create .. | .view _ | .refresh _ | .remove _ => none

namespace Registry

/-- The sessions by name, open or closed. -/
def sessions (registry : Registry) (id : SessionId) : Option Session :=
  (registry.entry? id).map Entry.session

/-- There is a session, but it can no longer be found by its name. -/
def Closed (registry : Registry) (id : SessionId) : Prop :=
  ∃ entry, registry.entry? id = some entry ∧ entry.isOpen = false

/-- What a step of a task does to a session. -/
def moment? (registry : Registry) (client : Client) (searchLimit : Nat)
    (deliveries : List Delivery) : Task → Option (SessionId × Moment)
  | .start operation =>
    match operation.step?, operation with
    | some (id, step), _ => if (registry.session? id).isSome then some (id, .stepped step) else none
    | none, .create id navigation => some (id, .opened navigation)
    | none, _ => none
  | .refreshing id =>
    if (registry.session? id).isSome then some (id, .stepped .beginRefresh) else none
  | .loading id ticket =>
    some (id, .stepped (.completeRefresh ticket
      (Data.ofDeliveries client ticket.navigation searchLimit deliveries)))
  | .continuing id ticket =>
    some (id, .stepped (.completeMore ticket (batch client searchLimit ticket deliveries)))
  | .viewing _ | .showing _ | .done _ => none

variable (registry : Registry) (id : SessionId)

/-! ### Entries by name -/

theorem lookup_map (entries : List (SessionId × Entry)) (change : SessionId → Entry → Entry)
    (name : SessionId) :
    (entries.map fun (key, entry) => (key, change key entry)).lookup name =
      (entries.lookup name).map (change name) := by
  induction entries with
  | nil => rfl
  | cons first rest ih =>
    obtain ⟨key, entry⟩ := first
    rw [List.map_cons, List.lookup_cons, List.lookup_cons]
    by_cases same : name = key
    · rw [same, beq_self_eq_true]
      rfl
    · rw [beq_false_of_ne same]
      exact ih

theorem entry?_modify (change : Entry → Entry) (name : SessionId) :
    Registry.entry? (registry.modify id change) name =
      (registry.entry? name).map fun entry => if name = id then change entry else entry := by
  have pairwise : (fun ((key, entry) : SessionId × Entry) =>
      if key = id then (key, change entry) else (key, entry)) =
        fun (key, entry) => (key, if key = id then change entry else entry) := by
    funext ⟨key, entry⟩
    exact (apply_ite (Prod.mk key) (key = id) (change entry) entry).symm
  unfold entry? modify
  rw [pairwise]
  exact lookup_map registry.entries (fun key entry => if key = id then change entry else entry) name

theorem entry?_add (session : Session) (name : SessionId) :
    Registry.entry? (registry.add id session) name =
      (registry.entry? name).or
        (if name = id then some { session, touchedAt := registry.now } else none) := by
  unfold entry? add
  rw [List.lookup_append, List.lookup_cons]
  by_cases same : name = id
  · rw [if_pos same, same, beq_self_eq_true]
  · rw [if_neg same, beq_false_of_ne same]
    rfl

theorem entry?_evictIdle (seconds : Nat) (name : SessionId) :
    Registry.entry? (registry.evictIdle seconds) name =
      (registry.entry? name).map fun entry => { entry with
        isOpen := entry.isOpen && registry.now ≤ entry.touchedAt + seconds * perSecond } :=
  lookup_map registry.entries (fun _ entry => { entry with
    isOpen := entry.isOpen && registry.now ≤ entry.touchedAt + seconds * perSecond }) name

variable {registry id}

/-- A session that is found by its name is the one of that name. -/
theorem sessions_of_session? {session : Session} (found : registry.session? id = some session) :
    registry.sessions id = some session := by
  obtain ⟨entry, filtered, same⟩ := Option.map_eq_some_iff.mp found
  rw [Option.filter_eq_some_iff] at filtered
  unfold sessions
  rw [filtered.1, Option.map_some, same]

/-- A session that is there but is not found by its name is closed. -/
theorem closed_of_session? {session : Session} (there : registry.sessions id = some session)
    (unfound : registry.session? id = none) : registry.Closed id := by
  obtain ⟨entry, held, _⟩ := Option.map_eq_some_iff.mp there
  refine ⟨entry, held, ?_⟩
  unfold session? at unfound
  rw [held, Option.map_eq_none_iff, Option.filter_eq_none_iff] at unfound
  exact Bool.eq_false_iff.mpr (unfound entry rfl)

/-! ### Ways to change a registry -/

/-- A registry has become another by a moment. -/
structure Follows (registry next : Registry) (moment : Option (SessionId × Moment)) : Prop where
  sessions : next.sessions = Moment.record .openAt Session.after registry.sessions moment
  closed : ∀ id, registry.Closed id → next.Closed id

namespace Follows

theorem refl (registry : Registry) : Follows registry registry none :=
  ⟨rfl, fun _ closed => closed⟩

/-- A change of every entry that leaves its session alone and does not open it. -/
theorem of_map {registry next : Registry} (change : SessionId → Entry → Entry)
    (entries : ∀ name, next.entry? name = (registry.entry? name).map (change name))
    (session : ∀ name entry, (change name entry).session = entry.session)
    (closed : ∀ name entry, entry.isOpen = false → (change name entry).isOpen = false) :
    Follows registry next none := by
  refine ⟨funext fun name => ?_, fun name ⟨entry, held, isClosed⟩ => ?_⟩
  · show (next.entry? name).map Entry.session = (registry.entry? name).map Entry.session
    rw [entries, Option.map_map]
    congr 1
    exact funext fun entry => session name entry
  · rw [Closed, entries, held]
    exact ⟨_, rfl, closed name entry isClosed⟩

/-- A moment, and then a change that no session sees. -/
theorem trans {registry between next : Registry} {moment : Option (SessionId × Moment)}
    (first : Follows registry between moment) (second : Follows between next none) :
    Follows registry next moment :=
  ⟨second.sessions.trans first.sessions, fun id closed => second.closed id (first.closed id closed)⟩

theorem touch (registry : Registry) (id : SessionId) : Follows registry (registry.touch id) none :=
  of_map _ (registry.entry?_modify id _) (fun _ _ => by split <;> rfl)
    (fun _ _ closed => by split <;> exact closed)

theorem close (registry : Registry) (id : SessionId) : Follows registry (registry.close id) none :=
  of_map _ (registry.entry?_modify id _) (fun _ _ => by split <;> rfl)
    (fun _ _ closed => by
      split
      · rfl
      · exact closed)

theorem evictIdle (registry : Registry) (seconds : Nat) :
    Follows registry (registry.evictIdle seconds) none :=
  of_map (fun _ entry => _) (registry.entry?_evictIdle seconds) (fun _ _ => rfl)
    (fun _ entry closed => by dsimp only; rw [closed, Bool.false_and])

theorem elapse (registry : Registry) (nanoseconds : Nat) :
    Follows registry (registry.elapse nanoseconds) none :=
  ⟨rfl, fun _ closed => closed⟩

theorem update (registry : Registry) (id : SessionId) (change : Session → Session)
    (step : Session.Step) (stepped : ∀ session, change session = session.after step) :
    Follows registry (registry.update id change) (some (id, .stepped step)) := by
  have entries := registry.entry?_modify id fun entry => { entry with session := change entry.session }
  refine ⟨funext fun name => ?_, fun name ⟨entry, held, isClosed⟩ => ?_⟩
  · show (Registry.entry? (registry.update id change) name).map Entry.session =
      if name = id then (registry.sessions id).map (Session.after · step) else registry.sessions name
    unfold Registry.update Registry.sessions
    rw [entries, Option.map_map]
    by_cases same : name = id
    · rw [if_pos same, same, Option.map_map]
      congr 1
      funext entry
      show (if id = id then _ else entry : Entry).session = entry.session.after step
      rw [if_pos rfl]
      exact stepped entry.session
    · rw [if_neg same]
      congr 1
      funext entry
      show (if name = id then _ else entry : Entry).session = entry.session
      rw [if_neg same]
  · unfold Registry.update
    rw [Closed, entries, held]
    refine ⟨_, rfl, ?_⟩
    show (if name = id then _ else entry : Entry).isOpen = false
    split <;> exact isClosed

theorem add (registry : Registry) (id : SessionId) (navigation : Navigation) :
    Follows registry (registry.add id (.openAt navigation)) (some (id, .opened navigation)) := by
  refine ⟨funext fun name => ?_, fun name ⟨entry, held, isClosed⟩ => ?_⟩
  · show (Registry.entry? (registry.add id (.openAt navigation)) name).map Entry.session =
      if name = id then some ((registry.sessions id).getD (.openAt navigation))
      else registry.sessions name
    unfold Registry.sessions
    rw [entry?_add]
    by_cases same : name = id
    · rw [if_pos same, if_pos same, same]
      cases registry.entry? id <;> rfl
    · rw [if_neg same, if_neg same, Option.or_none]
  · rw [Closed, entry?_add, held]
    exact ⟨entry, rfl, isClosed⟩

theorem idle {registry : Registry} {id : SessionId} {session : Session} {step : Session.Step}
    (there : registry.sessions id = some session) (idle : session.after step = session) :
    Follows registry registry (some (id, .stepped step)) := by
  refine ⟨funext fun name => ?_, fun _ closed => closed⟩
  show registry.sessions name =
    if name = id then (registry.sessions id).map (Session.after · step) else registry.sessions name
  by_cases same : name = id
  · rw [if_pos same, same, there, Option.map_some, idle]
  · rw [if_neg same]

end Follows

end Registry

end HostDashboard
