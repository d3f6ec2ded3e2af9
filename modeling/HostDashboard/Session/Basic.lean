/-
**A session: the page of one tab.**

Every refresh has a generation. The results of a refresh are applied only while its generation is the
current one, so the latest request wins whatever the order of arrival. At most one continuation is in
flight, and none while a refresh is.

* `beginRefresh` and `beginMore` hand out tickets, `completeRefresh` and `completeMore` take results;
* `submitQuery`, `navigate`, `toggle`, `discard`, `apply` and `goTo` are what the user does;
* `view` is the page.
-/

import HostDashboard.Dashboard.View
import HostDashboard.SearchBox
import HostDashboard.Session.Event

namespace HostDashboard

/-- What a refresh needs while the session is not locked. -/
structure RefreshTicket where
  generation : Nat
  navigation : Navigation
  deriving DecidableEq, Repr

/-- What a continuation needs while the session is not locked. -/
structure MoreTicket where
  generation : Nat
  navigation : Navigation
  pageToken : String
  deriving DecidableEq, Repr

/-- A further batch of hosts and how to go on after it, or the text of a failure. -/
abbrev Batch := Except String (List Host × Option String)

/-- The state of one tab. -/
structure Session where
  navigation : Navigation := {}
  panel : Panel := {}
  pager : Pager := {}
  data : Data := {}
  status : LoadStatus := ⟨.idle, .idle⟩
  /-- The number of refreshes so far. -/
  generation : Nat := 0
  /-- The token of the continuation in flight. -/
  inFlight : Option String := none
  /-- Everything emitted so far, oldest first. -/
  events : List SessionEvent := []
  deriving DecidableEq

namespace Session

/-- A session opened at a state. -/
def openAt (navigation : Navigation) : Session :=
  { navigation, panel := .ofSelections navigation.selections }

/-- Tells the subscribers. -/
def emit (session : Session) (event : SessionEvent) : Session :=
  { session with events := session.events ++ [event] }

/-! ### Refreshes and continuations -/

/-- Starts a refresh: both parts are loading, and no continuation is possible. -/
def beginRefresh (session : Session) : Session × RefreshTicket :=
  let generation := session.generation + 1
  ({ session with
      generation
      data := { session.data with nextPageToken := none }
      inFlight := none
      status := ⟨.loading, .loading⟩ }.emit (.loading generation),
    ⟨generation, session.navigation⟩)

/-- The event that tells of fresh data. -/
def outcomeEvent (generation : Nat) (data : Data) : SessionEvent :=
  match data.error with
  | some message => .failed generation message
  | none => .loaded generation data.hosts.length

/-- Applies the data of a refresh, unless a newer one has begun; true if they were applied. -/
def completeRefresh (session : Session) (generation : Nat) (data : Data) : Session × Bool :=
  if generation = session.generation then
    ({ session with
        status := data.status
        pager := session.pager.sync data.hosts.length
        data }.emit (outcomeEvent generation data), true)
  else (session, false)

/-- Starts a continuation, if the results can be continued and nothing is loading. -/
def beginMore (session : Session) : Session × Option MoreTicket :=
  if session.status.search = .loading ∨ session.inFlight.isSome then (session, none)
  else match session.data.nextPageToken with
    | none => (session, none)
    | some pageToken =>
      ({ session with
          inFlight := some pageToken
          status := { session.status with search := .loading } },
        some ⟨session.generation, session.navigation, pageToken⟩)

/-- Appends a batch, or notes that it failed, if its ticket is the continuation in flight; true if it
is. -/
def completeMore (session : Session) (ticket : MoreTicket) (batch : Batch) : Session × Bool :=
  if ticket.generation ≠ session.generation ∨ session.inFlight ≠ some ticket.pageToken then
    (session, false)
  else match batch with
    | .ok (hosts, nextPageToken) =>
      let all := session.data.hosts ++ hosts
      ({ session with
          inFlight := none
          data := { session.data with hosts := all, nextPageToken }
          status := { session.status with search := .ready }
          pager := session.pager.sync all.length }.emit (.loaded ticket.generation all.length),
        true)
    | .error message =>
      ({ session with
          inFlight := none
          status := { session.status with search := .failed } }.emit
            (.failed ticket.generation message), true)

/-! ### What the user does -/

/-- Puts the text of the search box in the place of the filter fragments; back to page one. -/
def submitQuery (session : Session) (typed : String) : Session :=
  let text := Text.trimmed typed
  { session with
    navigation := { session.navigation with
      filters := ((FieldQuery.parse? text).map FieldQuery.fragment).toList
      query := if text.isEmpty then none else some text }
    pager := session.pager.reset }

/-- Replaces the whole state that lives in the link; back to page one. -/
def navigate (session : Session) (navigation : Navigation) : Session :=
  { session with
    navigation
    panel := .ofSelections navigation.selections
    pager := session.pager.reset }

/-- Flips a staged value. -/
def toggle (session : Session) (category : Category) (value : String) : Session :=
  { session with panel := session.panel.toggle category value }

/-- Forgets what is staged. -/
def discard (session : Session) : Session := { session with panel := session.panel.discard }

/-- Puts the staged selections in force; true, and back to page one, if that changes anything. -/
def apply (session : Session) : Session × Bool :=
  let (panel, navigation, changed) := session.panel.apply session.navigation
  ({ session with
      panel, navigation
      pager := if changed then session.pager.reset else session.pager }, changed)

/-- Moves to the page nearest to a target. -/
def goTo (session : Session) (target : Int) : Session :=
  { session with pager := session.pager.goTo target }

/-! ### What is shown -/

def panelView (session : Session) : PanelView := session.panel.view session.data.counts

def view (session : Session) : DashboardView :=
  .of session.navigation session.data session.pager session.panel session.status

end Session

end HostDashboard
