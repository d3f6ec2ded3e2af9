/-
**The stream of events.**

Everything that a session emits belongs to a generation. A generation begins when its refresh does; after
that come the outcomes of what was taken up under it, first that of the refresh and then those of
continuations, each as it came back.

* `Session.uptake?` is what a step takes up, with the hosts that are held right after, and
  `Session.after_events` says what a step emits: the beginning of a refresh, or the outcome of what it takes
  up, or nothing;
* a `Block` is one generation, `Block.WellFormed` says which outcomes come in which order in it;
* `Chronicle` ties a desk to the blocks of its run. What carries it is what the last block says of the
  tickets: it has no outcome while its refresh is out, and it has one when there is a token to go on with;
* `events_in_blocks` is the statement about all orderly runs.
-/

import HostDashboard.Proofs.Session.Provenance

namespace HostDashboard

/-- A result that comes back. -/
inductive Arrival where
  | refresh (ticket : RefreshTicket) (data : Data)
  | continuation (ticket : MoreTicket) (batch : Batch)

namespace Arrival

def generation : Arrival → Nat
  | refresh ticket _ => ticket.generation
  | continuation ticket _ => ticket.generation

/-- The text of the failure, if it is one: the banner of the data, or what became of the batch. -/
def failure? : Arrival → Option String
  | refresh _ data => data.error
  | continuation _ (.error message) => some message
  | continuation _ (.ok _) => none

end Arrival

/-- A result that was taken up, and the number of hosts that were held right after. -/
structure Uptake where
  arrival : Arrival
  held : Nat

/-- The event that tells of it. -/
def Uptake.event (uptake : Uptake) : SessionEvent :=
  match uptake.arrival.failure? with
  | some message => .failed uptake.arrival.generation message
  | none => .loaded uptake.arrival.generation uptake.held

/-- A generation, with what was taken up under it. -/
structure Block where
  generation : Nat
  uptakes : List Uptake := []

namespace Block

def events (block : Block) : List SessionEvent :=
  .loading block.generation :: block.uptakes.map Uptake.event

/-- Everything is of the generation of the block: the refresh comes first, and then only continuations. -/
structure WellFormed (block : Block) : Prop where
  generation : ∀ uptake ∈ block.uptakes, uptake.arrival.generation = block.generation
  ordered : ∀ first rest, block.uptakes = first :: rest →
    (∃ ticket data, first.arrival = .refresh ticket data) ∧
      ∀ uptake ∈ rest, ∃ ticket batch, uptake.arrival = .continuation ticket batch

/-- The block with one more outcome. -/
def add (block : Block) (uptake : Uptake) : Block :=
  { block with uptakes := block.uptakes ++ [uptake] }

theorem events_add (block : Block) (uptake : Uptake) :
    (block.add uptake).events = block.events ++ [uptake.event] := by
  simp [events, add]

/-- The refresh comes first. -/
theorem wellFormed_refresh (ticket : RefreshTicket) (data : Data) (held : Nat) :
    (add ⟨ticket.generation, []⟩ ⟨.refresh ticket data, held⟩).WellFormed := by
  refine ⟨fun uptake member => ?_, fun first rest same => ?_⟩
  · rw [List.mem_singleton.mp member]
    rfl
  · cases same
    exact ⟨⟨ticket, data, rfl⟩, fun _ member => absurd member List.not_mem_nil⟩

/-- Continuations come after something. -/
theorem WellFormed.continuation {block : Block} (wellFormed : block.WellFormed)
    (answered : block.uptakes ≠ []) {ticket : MoreTicket} (own : ticket.generation = block.generation)
    (batch : Batch) (held : Nat) : (block.add ⟨.continuation ticket batch, held⟩).WellFormed := by
  obtain ⟨first, rest, uptakes⟩ := List.exists_cons_of_ne_nil answered
  refine ⟨fun uptake member => ?_, fun start others same => ?_⟩
  · rcases List.mem_append.mp member with old | new
    · exact wellFormed.generation uptake old
    · rw [List.mem_singleton.mp new]
      exact own
  · obtain ⟨refresh, continuations⟩ := wellFormed.ordered first rest uptakes
    have split : first :: (rest ++ [⟨.continuation ticket batch, held⟩]) = start :: others := by
      rw [← same, ← List.cons_append, ← uptakes]
      rfl
    cases split
    refine ⟨refresh, fun uptake member => ?_⟩
    rcases List.mem_append.mp member with old | new
    · exact continuations uptake old
    · rw [List.mem_singleton.mp new]
      exact ⟨ticket, batch, rfl⟩

end Block

namespace Session

/-! ### What a step emits -/

/-- What a step takes up. -/
def uptake? (session : Session) : Step → Option Uptake
  | .completeRefresh ticket data =>
    let (next, taken) := session.completeRefresh ticket.generation data
    if taken then some ⟨.refresh ticket data, next.data.hosts.length⟩ else none
  | .completeMore ticket batch =>
    let (next, taken) := session.completeMore ticket batch
    if taken then some ⟨.continuation ticket batch, next.data.hosts.length⟩ else none
  | _ => none

/-- What the steps of a run take up, in order. -/
def uptakes (session : Session) : List Step → List Uptake
  | [] => []
  | step :: rest => (session.uptake? step).toList ++ (session.after step).uptakes rest

/-- What a step emits. -/
def emitted (session : Session) : Step → List SessionEvent
  | .beginRefresh => [.loading (session.generation + 1)]
  | step => (session.uptake? step).toList.map Uptake.event

variable (session : Session)

theorem uptake?_completeRefresh (ticket : RefreshTicket) (data : Data) :
    session.uptake? (.completeRefresh ticket data) =
      if (session.completeRefresh ticket.generation data).2 then
        some ⟨.refresh ticket data,
          (session.completeRefresh ticket.generation data).1.data.hosts.length⟩
      else none := rfl

theorem uptake?_completeMore (ticket : MoreTicket) (batch : Batch) :
    session.uptake? (.completeMore ticket batch) =
      if (session.completeMore ticket batch).2 then
        some ⟨.continuation ticket batch, (session.completeMore ticket batch).1.data.hosts.length⟩
      else none := rfl

theorem uptake?_refresh {ticket : RefreshTicket} (current : ticket.generation = session.generation)
    (data : Data) :
    session.uptake? (.completeRefresh ticket data) =
      some ⟨.refresh ticket data, data.hosts.length⟩ := by
  rw [uptake?_completeRefresh, current, completeRefresh_current]
  rfl

theorem uptake?_refresh_stale {ticket : RefreshTicket}
    (stale : ticket.generation ≠ session.generation) (data : Data) :
    session.uptake? (.completeRefresh ticket data) = none := by
  rw [uptake?_completeRefresh, completeRefresh_stale session stale]
  rfl

theorem uptake?_continuation {ticket : MoreTicket} (current : ticket.generation = session.generation)
    (inFlight : session.inFlight = some ticket.pageToken) (batch : Batch) :
    session.uptake? (.completeMore ticket batch) =
      some ⟨.continuation ticket batch,
        (session.completeMore ticket batch).1.data.hosts.length⟩ := by
  rw [uptake?_completeMore,
    if_pos ((completeMore_taken_iff session ticket batch).mpr ⟨current, inFlight⟩)]

theorem uptake?_continuation_dropped {ticket : MoreTicket}
    (other : ticket.generation ≠ session.generation ∨ session.inFlight ≠ some ticket.pageToken)
    (batch : Batch) : session.uptake? (.completeMore ticket batch) = none := by
  rw [uptake?_completeMore, completeMore_dropped session other]
  rfl

theorem emitted_eq (step : Step) (other : step ≠ .beginRefresh) :
    session.emitted step = (session.uptake? step).toList.map Uptake.event := by
  cases step with
  | beginRefresh => exact absurd rfl other
  | _ => rfl

/-- **What a step emits**: the beginning of a refresh, or the outcome of what it takes up. -/
theorem after_events (step : Step) :
    (session.after step).events = session.events ++ session.emitted step := by
  by_cases begin : step = .beginRefresh
  · rw [begin]
    rfl
  rw [emitted_eq session step begin]
  have nothing : session.events = session.events ++ [] := (List.append_nil _).symm
  have outcome := session.outcome step
  generalize session.after step = next at outcome ⊢
  cases outcome with
  | edited edit =>
    rw [edit_eq]
    exact nothing
  | begun => exact absurd rfl begin
  | applied current data =>
    rw [uptake?_refresh session current]
    show _ ++ [outcomeEvent session.generation data] = _ ++ [Uptake.event _]
    rw [← current]
    rfl
  | overtaken stale data =>
    rw [uptake?_refresh_stale session stale]
    exact nothing
  | refused none => exact nothing
  | handed handed => exact nothing
  | appended current inFlight hosts nextPageToken =>
    rw [uptake?_continuation session current inFlight, completeMore_appended session current inFlight]
    rfl
  | failed current inFlight message =>
    rw [uptake?_continuation session current inFlight]
    rfl
  | dropped other batch =>
    rw [uptake?_continuation_dropped session other]
    exact nothing

end Session

namespace Desk

/-! ### The blocks of a run -/

/-- What was taken up so far stands in blocks, one for each generation. -/
structure Chronicle (desk : Desk) (taken : List Uptake) (blocks : List Block) : Prop where
  events : desk.session.events = blocks.flatMap Block.events
  generations : blocks.map Block.generation = List.range' 1 desk.session.generation
  uptakes : blocks.flatMap Block.uptakes = taken
  wellFormed : ∀ block ∈ blocks, block.WellFormed
  /-- While its refresh is out, the last block has no outcome. -/
  waiting : ∀ ticket ∈ desk.currentRefreshes, ∃ before, blocks = before ++ [⟨ticket.generation, []⟩]
  /-- When there is a token to go on with, the last block has one. -/
  answered : desk.session.data.nextPageToken.isSome →
    ∃ before block, blocks = before ++ [block] ∧ block.uptakes ≠ []

theorem chronicle_openAt (navigation : Navigation) : (openAt navigation).Chronicle [] [] where
  events := rfl
  generations := rfl
  uptakes := rfl
  wellFormed := fun _ member => absurd member List.not_mem_nil
  waiting := fun _ member => absurd member List.not_mem_nil
  answered := nofun

namespace Chronicle

variable {desk next : Desk} {taken : List Uptake} {blocks before : List Block} {block : Block}

/-- The last block is the current generation. -/
theorem generation_of_last (chronicle : desk.Chronicle taken (before ++ [block])) :
    block.generation = desk.session.generation := by
  have generations := chronicle.generations
  rw [List.map_append, List.map_singleton] at generations
  cases current : desk.session.generation with
  | zero =>
    rw [current] at generations
    exact absurd generations (by simp)
  | succ generation =>
    rw [current, List.range'_concat] at generations
    have last := (List.append_inj' generations rfl).2
    rw [List.singleton_inj.mp last]
    omega

/-- A step that emits nothing leaves the blocks as they are. -/
theorem silent (chronicle : desk.Chronicle taken blocks)
    (events : next.session.events = desk.session.events)
    (generation : next.session.generation = desk.session.generation)
    (refreshes : ∀ ticket ∈ next.refreshes, ticket ∈ desk.refreshes)
    (token : next.session.data.nextPageToken = desk.session.data.nextPageToken) :
    next.Chronicle taken blocks := by
  refine ⟨events.trans chronicle.events, ?_, chronicle.uptakes, chronicle.wellFormed,
    fun ticket member => ?_, ?_⟩
  · rw [generation]
    exact chronicle.generations
  · obtain ⟨out, current⟩ := mem_currentRefreshes.mp member
    refine chronicle.waiting ticket (mem_currentRefreshes.mpr ⟨refreshes ticket out, ?_⟩)
    rw [current, generation]
  · rw [token]
    exact chronicle.answered

/-- A refresh that begins opens a block. -/
theorem begun (chronicle : desk.Chronicle taken blocks) :
    (desk.after .beginRefresh).Chronicle taken (blocks ++ [⟨desk.session.generation + 1, []⟩]) where
  events := by
    rw [List.flatMap_append, ← chronicle.events]
    rfl
  generations := by
    show _ = List.range' 1 (desk.session.generation + 1)
    rw [List.map_append, chronicle.generations, List.range'_concat]
    simp [Nat.add_comm]
  uptakes := by
    rw [List.flatMap_append, chronicle.uptakes]
    exact List.append_nil _
  wellFormed := by
    intro block member
    rcases List.mem_append.mp member with old | new
    · exact chronicle.wellFormed block old
    · rw [List.mem_singleton.mp new]
      exact ⟨fun _ member => absurd member List.not_mem_nil, nofun⟩
  waiting := by
    intro ticket member
    rw [(mem_currentRefreshes.mp member).2]
    exact ⟨blocks, rfl⟩
  answered := nofun

/-- What is taken up goes to the end of the last block. -/
theorem add (chronicle : desk.Chronicle taken (before ++ [block])) {uptake : Uptake}
    (wellFormed : (block.add uptake).WellFormed)
    (events : next.session.events = desk.session.events ++ [uptake.event])
    (generation : next.session.generation = desk.session.generation)
    (noneOut : next.currentRefreshes = []) :
    next.Chronicle (taken ++ [uptake]) (before ++ [block.add uptake]) where
  events := by
    have past := chronicle.events
    rw [List.flatMap_append, List.flatMap_singleton] at past
    rw [events, past, List.flatMap_append, List.flatMap_singleton, Block.events_add,
      List.append_assoc]
  generations := by
    rw [generation, ← chronicle.generations, List.map_append, List.map_append]
    rfl
  uptakes := by
    rw [← chronicle.uptakes, List.flatMap_append, List.flatMap_append, List.flatMap_singleton,
      List.flatMap_singleton, List.append_assoc]
    rfl
  wellFormed := by
    intro other member
    rcases List.mem_append.mp member with old | new
    · exact chronicle.wellFormed other (List.mem_append_left _ old)
    · rw [List.mem_singleton.mp new]
      exact wellFormed
  waiting := by
    intro ticket member
    rw [noneOut] at member
    cases member
  answered := fun _ => ⟨before, block.add uptake, rfl, List.append_ne_nil_of_right_ne_nil _ nofun⟩

/-- A continuation that is taken up goes to the end of the last block. -/
theorem continued (chronicle : desk.Chronicle taken blocks) (sound : desk.Sound)
    {ticket : MoreTicket} (out : ticket ∈ desk.continuations)
    (current : ticket.generation = desk.session.generation) (batch : Batch) (held : Nat)
    (events : next.session.events =
      desk.session.events ++ [Uptake.event ⟨.continuation ticket batch, held⟩])
    (generation : next.session.generation = desk.session.generation)
    (refreshes : next.currentRefreshes = desk.currentRefreshes) :
    ∃ blocks, next.Chronicle (taken ++ [⟨.continuation ticket batch, held⟩]) blocks := by
  obtain ⟨noneOut, _, _, _, token⟩ := sound.phase.of_continuation out current
  obtain ⟨before, block, rfl, answered⟩ := chronicle.answered (token ▸ rfl)
  have own : ticket.generation = block.generation :=
    current.trans chronicle.generation_of_last.symm
  have wellFormed : block.WellFormed :=
    chronicle.wellFormed block (List.mem_append_right _ (List.mem_singleton_self _))
  exact ⟨_, chronicle.add (wellFormed.continuation answered own batch held) events generation
    (refreshes.trans noneOut)⟩

/-- **Every orderly step keeps the chronicle.** -/
theorem after (chronicle : desk.Chronicle taken blocks) (sound : desk.Sound) {step : Session.Step}
    (allowed : desk.Allows step) :
    ∃ blocks, (desk.after step).Chronicle (taken ++ (desk.session.uptake? step).toList) blocks := by
  have same : taken = taken ++ [] := (List.append_nil taken).symm
  by_cases begin : step = .beginRefresh
  · rw [begin]
    exact ⟨_, same ▸ chronicle.begun⟩
  have events := desk.session.after_events step
  rw [← after_session, Session.emitted_eq _ step begin] at events
  have outcome := Desk.outcome allowed
  generalize desk.after step = next at outcome events ⊢
  cases outcome with
  | edited edit =>
    refine ⟨blocks, same ▸ chronicle.silent ?_ ?_ (fun _ => id) ?_⟩
    · exact events.trans (List.append_nil _)
    · exact Session.edit_generation _ edit
    · exact congrArg Data.nextPageToken (Session.edit_data _ edit)
  | begun => exact absurd rfl begin
  | @applied ticket out current data =>
    rw [Session.uptake?_refresh _ current] at events ⊢
    have only := (sound.phase.of_refresh out current).1
    obtain ⟨before, rfl⟩ := chronicle.waiting ticket (only ▸ List.mem_singleton_self _)
    exact ⟨_, chronicle.add (Block.wellFormed_refresh ticket data _) events rfl
      (filter_erase_of_singleton only)⟩
  | overtaken out stale data =>
    rw [Session.uptake?_refresh_stale _ stale]
    exact ⟨blocks, same ▸ chronicle.silent rfl rfl (fun _ => List.mem_of_mem_erase) rfl⟩
  | refused none => exact ⟨blocks, same ▸ chronicle⟩
  | handed handed => exact ⟨blocks, same ▸ chronicle.silent rfl rfl (fun _ => id) rfl⟩
  | appended out current inFlight hosts nextPageToken =>
    rw [Session.uptake?_continuation _ current inFlight] at events ⊢
    exact chronicle.continued sound out current _ _ events rfl rfl
  | failed out current inFlight message =>
    rw [Session.uptake?_continuation _ current inFlight] at events ⊢
    exact chronicle.continued sound out current _ _ events rfl rfl
  | dropped out other batch =>
    rw [Session.uptake?_continuation_dropped _ other]
    exact ⟨blocks, same ▸ chronicle.silent rfl rfl (fun _ => id) rfl⟩

/-- **Every orderly run keeps the chronicle.** -/
theorem run (chronicle : desk.Chronicle taken blocks) (sound : desk.Sound)
    {steps : List Session.Step} (orderly : desk.Orderly steps) :
    ∃ blocks, (desk.run steps).Chronicle (taken ++ desk.session.uptakes steps) blocks := by
  induction steps generalizing desk taken blocks with
  | nil => exact ⟨blocks, (List.append_nil taken).symm ▸ chronicle⟩
  | cons step rest ih =>
    obtain ⟨between, kept⟩ := chronicle.after sound orderly.1
    obtain ⟨blocks, told⟩ := ih kept (sound.outcome (Desk.outcome orderly.1)) orderly.2
    rw [List.append_assoc, after_session] at told
    exact ⟨blocks, told⟩

end Chronicle

/-- **The events of a session stand in blocks**, after every orderly run from any link on. There is a block
for each refresh that began, in the order of their generations from one on. It begins with the one event
that the refresh begins, and all that follows is of its generation: the outcome of the refresh first, and
then those of continuations. Taken together the outcomes are those of all results that were taken up, in
order and one for each; a failure tells of the banner or of what became of the batch, everything else of the
hosts that were held right after. A step that neither begins a refresh nor takes anything up emits
nothing. -/
theorem events_in_blocks {navigation : Navigation} {steps : List Session.Step}
    (orderly : (openAt navigation).Orderly steps) :
    let session := ((openAt navigation).run steps).session
    (∃ blocks : List Block, session.events = blocks.flatMap Block.events ∧
      blocks.map Block.generation = List.range' 1 (Session.begun steps) ∧
      blocks.flatMap Block.uptakes = (Session.openAt navigation).uptakes steps ∧
      ∀ block ∈ blocks, block.WellFormed) ∧
    ∀ step, step ≠ .beginRefresh → session.uptake? step = none →
      (session.after step).events = session.events := by
  intro session
  obtain ⟨blocks, told⟩ := (chronicle_openAt navigation).run (sound_openAt navigation) orderly
  have generation : session.generation = Session.begun steps := by
    show ((openAt navigation).run steps).session.generation = _
    rw [run_session, Session.run_generation]
    exact Nat.zero_add _
  refine ⟨⟨blocks, told.events, ?_, told.uptakes, told.wellFormed⟩, fun step other none => ?_⟩
  · rw [← generation]
    exact told.generations
  · rw [Session.after_events, Session.emitted_eq _ _ other, none]
    exact List.append_nil _

/-- A refresh that is overtaken, one that brings a host, and a continuation that fails and is tried again. -/
def overtakenRun : List Session.Step :=
  [.beginRefresh, .beginRefresh, .completeRefresh ⟨1, {}⟩ { error := some "late" },
    .completeRefresh ⟨2, {}⟩ { hosts := [.plain "x"], nextPageToken := some "a" },
    .beginMore, .completeMore ⟨2, {}, "a"⟩ (.error "down"), .edit .discard,
    .beginMore, .completeMore ⟨2, {}, "a"⟩ (.ok ([.plain "y"], none))]

theorem events_in_blocks_overtaken :
    (openAt {}).Orderly overtakenRun ∧
      ((openAt {}).run overtakenRun).session.events =
        [.loading 1, .loading 2, .loaded 2 1, .failed 2 "down", .loaded 2 2] ∧
      ∃ blocks : List Block,
        [.loading 1, .loading 2, .loaded 2 1, .failed 2 "down", .loaded 2 2] =
          blocks.flatMap Block.events ∧
        blocks.map Block.generation = [1, 2] ∧ ∀ block ∈ blocks, block.WellFormed := by
  have orderly : (openAt {}).Orderly overtakenRun := by decide
  have events : ((openAt {}).run overtakenRun).session.events =
      [.loading 1, .loading 2, .loaded 2 1, .failed 2 "down", .loaded 2 2] := by decide
  obtain ⟨⟨blocks, told, generations, _, wellFormed⟩, _⟩ := events_in_blocks orderly
  exact ⟨orderly, events, blocks, events ▸ told, generations, wellFormed⟩

end Desk

end HostDashboard
