/-
**The load states tell what is out.**

`Phase` says what a session knows in each of its three phases. Here that is read from the other side: the
load states and the continuation in flight say exactly which ticket of the current generation is out, a
refresh, a continuation or none.

* `Desk.current` are the tickets of the current generation that are out, of either kind. There is never
  more than one (`Phase.current_cases`);
* a ticket that would be taken up is of the current generation (`Session.Takes.generation`), and the
  generation never falls, so an older ticket is not taken up in any future;
* `load_states_fit_tickets` puts both together.
-/

import HostDashboard.Proofs.Session.Phase

namespace HostDashboard

/-- A ticket of a refresh or of a continuation. -/
abbrev Ticket := RefreshTicket ⊕ MoreTicket

def Ticket.generation : Ticket → Nat
  | .inl ticket => ticket.generation
  | .inr ticket => ticket.generation

namespace Session

/-- Something that comes back under the ticket is taken up. -/
def Takes (session : Session) : Ticket → Prop
  | .inl ticket => ∃ data, (session.completeRefresh ticket.generation data).2 = true
  | .inr ticket => ∃ batch, (session.completeMore ticket batch).2 = true

theorem Takes.generation {session : Session} {ticket : Ticket} (takes : session.Takes ticket) :
    ticket.generation = session.generation := by
  cases ticket with
  | inl ticket =>
    obtain ⟨data, taken⟩ := takes
    by_cases current : ticket.generation = session.generation
    · exact current
    · rw [completeRefresh_stale session current] at taken
      cases taken
  | inr ticket =>
    obtain ⟨batch, taken⟩ := takes
    exact ((completeMore_taken_iff session ticket batch).mp taken).1

end Session

namespace Desk

variable {desk : Desk}

/-- The tickets that are out. -/
def out (desk : Desk) : List Ticket := desk.refreshes.map .inl ++ desk.continuations.map .inr

/-- The tickets of the current generation that are out. -/
def current (desk : Desk) : List Ticket :=
  desk.out.filter fun ticket => ticket.generation = desk.session.generation

theorem current_eq (desk : Desk) :
    desk.current = desk.currentRefreshes.map .inl ++ desk.currentContinuations.map .inr := by
  unfold current out currentRefreshes currentContinuations
  rw [List.filter_append, List.filter_map, List.filter_map]
  rfl

/-- **The three phases**, told from the session and from the tickets that are out. -/
theorem Phase.current_cases (phase : desk.Phase) :
    (desk.current = [] ∧ desk.session.status.search ≠ .loading ∧
        desk.session.status.facets ≠ .loading ∧ desk.session.inFlight = none) ∨
      (∃ ticket, desk.current = [.inl ticket] ∧ desk.session.status = ⟨.loading, .loading⟩ ∧
        desk.session.inFlight = none) ∨
      ∃ ticket, desk.current = [.inr ticket] ∧ desk.session.status.search = .loading ∧
        desk.session.status.facets ≠ .loading ∧
          desk.session.inFlight = some ticket.pageToken ∧
            desk.session.data.nextPageToken = some ticket.pageToken := by
  rw [current_eq]
  cases phase with
  | resting refreshes continuations search facets inFlight =>
    left
    rw [refreshes, continuations]
    exact ⟨rfl, search, facets, inFlight⟩
  | refreshing ticket refreshes continuations status inFlight token =>
    right; left
    rw [refreshes, continuations]
    exact ⟨ticket, rfl, status, inFlight⟩
  | continuing ticket refreshes continuations search facets inFlight token =>
    right; right
    rw [refreshes, continuations]
    exact ⟨ticket, rfl, search, facets, inFlight, token⟩

/-- **Only a ticket of the current generation can still be taken up**, whatever happens next. -/
theorem Sound.mem_current_of_takes (sound : desk.Sound) {ticket : Ticket} (out : ticket ∈ desk.out)
    (later : List Session.Step) (takes : (desk.run later).session.Takes ticket) :
    ticket ∈ desk.current := by
  have notNewer : ticket.generation ≤ desk.session.generation := by
    rcases List.mem_append.mp out with refresh | continuation
    · obtain ⟨ticket, inside, rfl⟩ := List.mem_map.mp refresh
      exact sound.refreshes_le ticket inside
    · obtain ⟨ticket, inside, rfl⟩ := List.mem_map.mp continuation
      exact sound.continuations_le ticket inside
  have taken := takes.generation
  rw [run_session, Session.run_generation] at taken
  refine List.mem_filter.mpr ⟨out, decide_eq_true ?_⟩
  omega

/-- **The load states tell what is out.** After every orderly run of a session that was opened anywhere,
at most one ticket of the current generation is out. Hosts are loading exactly if there is one; facets
are loading exactly if it is a refresh; a token is in flight exactly if it is a continuation with that
token, which is then still the one to go on with. No continuation is handed out while one is out, and of
all tickets that are out no other can be taken up, now or later. -/
theorem load_states_fit_tickets {navigation : Navigation} {steps : List Session.Step}
    (orderly : (openAt navigation).Orderly steps) :
    let desk := (openAt navigation).run steps
    desk.current.length ≤ 1 ∧
      (desk.session.status.search = .loading ↔ ∃ ticket, desk.current = [ticket]) ∧
      (desk.session.status.facets = .loading ↔ ∃ ticket, desk.current = [.inl ticket]) ∧
      (∀ token, desk.session.inFlight = some token ↔
        ∃ ticket, desk.current = [.inr ticket] ∧ ticket.pageToken = token) ∧
      (∀ token, desk.session.inFlight = some token →
        desk.session.data.nextPageToken = some token) ∧
      (∀ ticket, desk.session.beginMore.2 = some ticket → desk.current = []) ∧
      ∀ later ticket, ticket ∈ desk.out → (desk.run later).session.Takes ticket →
        desk.current = [ticket] := by
  intro desk
  have sound : desk.Sound := Reachable.sound ⟨navigation, steps, orderly, rfl⟩
  have only : ∀ {ticket}, desk.current.length ≤ 1 → ticket ∈ desk.current →
      desk.current = [ticket] := by
    intro ticket short member
    match held : desk.current with
    | [] => rw [held] at member; cases member
    | [one] => rw [held] at member; rw [List.mem_singleton.mp member]
    | _ :: _ :: _ => rw [held] at short; simp at short
  have taken : desk.current.length ≤ 1 → ∀ later ticket, ticket ∈ desk.out →
      (desk.run later).session.Takes ticket → desk.current = [ticket] :=
    fun short later ticket out takes => only short (sound.mem_current_of_takes out later takes)
  have handed : ∀ ticket, desk.session.beginMore.2 = some ticket →
      desk.session.status.search ≠ .loading :=
    fun ticket handed => ((desk.session.beginMore_eq_some_iff ticket).mp handed).1
  rcases sound.phase.current_cases with ⟨held, search, facets, inFlight⟩ |
      ⟨ticket, held, status, inFlight⟩ | ⟨ticket, held, search, facets, inFlight, token⟩
  · rw [held] at taken
    simpa [held, search, facets, inFlight] using taken
  · rw [held] at taken
    rw [status] at handed
    simpa [held, status, inFlight] using And.intro handed taken
  · rw [held] at taken
    rw [search] at handed
    simpa [held, search, facets, inFlight, token] using And.intro handed taken

/-- A refresh that is lost, one that brings a token, and a continuation that is under way. -/
def continuingRun : List Session.Step :=
  [.beginRefresh, .beginRefresh, .completeRefresh ⟨2, {}⟩ { nextPageToken := some "a" }, .beginMore]

theorem load_states_fit_continuing :
    (openAt {}).Orderly continuingRun ∧
      ((openAt {}).run continuingRun).out = [.inl ⟨1, {}⟩, .inr ⟨2, {}, "a"⟩] ∧
      ((openAt {}).run continuingRun).session.status.search = .loading ∧
      ((openAt {}).run continuingRun).session.data.nextPageToken = some "a" := by
  have orderly : (openAt {}).Orderly continuingRun := by decide
  obtain ⟨_, search, _, inFlight, token, _⟩ := load_states_fit_tickets orderly
  have held : ((openAt {}).run continuingRun).current = [.inr ⟨2, {}, "a"⟩] := by decide
  exact ⟨orderly, by decide, search.mpr ⟨_, held⟩, token "a" ((inFlight "a").mpr ⟨_, held, rfl⟩)⟩

end Desk

end HostDashboard
