/-
**What one refresh fetches.**

A refresh asks the search API for hosts and for facet counts with the same filter. It never fails: an
error leaves the page empty under a banner.

* `Data.requests` are the two requests of a state, or none when its filter cannot be built;
* `Data.ofDeliveries` puts together what became of them.
-/

import HostDashboard.Api.Client
import HostDashboard.Filter.Builder

namespace HostDashboard

/-- How far the loading of one part of the page is. -/
inductive LoadState where
  | idle
  | loading
  | ready
  | failed
  deriving DecidableEq, Repr

def LoadState.name : LoadState → String
  | idle => "idle"
  | loading => "loading"
  | ready => "ready"
  | failed => "failed"

/-- The load states of both parts. -/
structure LoadStatus where
  search : LoadState
  facets : LoadState
  deriving DecidableEq, Repr

/-- What one refresh fetched. -/
structure Data where
  hosts : List Host := []
  counts : Counts := {}
  nextPageToken : Option String := none
  /-- The text of the banner. -/
  error : Option String := none
  searchFailed : Bool := false
  facetsFailed : Bool := false
  deriving DecidableEq

namespace Data

/-- The state of a part that has been loaded. -/
def loaded (hasFailed : Bool) : LoadState := if hasFailed then .failed else .ready

/-- The states that the data leave. -/
def status (data : Data) : LoadStatus := ⟨loaded data.searchFailed, loaded data.facetsFailed⟩

/-- An empty page under a banner. -/
def banner (text : String) (searchFailed facetsFailed : Bool) : Data :=
  { error := some text, searchFailed, facetsFailed }

/-- The banner of a failed request. -/
def outage (client : Client) (failure : Failure) : String :=
  failure.message ++ ". Make sure the API is running at " ++ client.shownBase

/-- What two results make together: all of both, or the failure of the search before that of the
counts. -/
def ofResults (client : Client) :
    Except Failure SearchResponse → Except Failure Counts → Data
  | .ok found, .ok counts =>
    { hosts := found.hosts, counts, nextPageToken := found.nextPageToken }
  | .error failure, .ok _ => banner (outage client failure) true false
  | .error failure, .error _ => banner (outage client failure) true true
  | .ok _, .error failure => banner (outage client failure) false true

def requestsFor (filter : Filter) (limit : Nat) : List ApiRequest :=
  [.search filter limit none, .counts filter]

/-- The requests of a state: none when its filter cannot be built. -/
def requests (navigation : Navigation) (limit : Nat) : List ApiRequest :=
  match navigation.filter with
  | .ok filter => requestsFor filter limit
  | .error _ => []

/-- A delivery that never came. -/
def missing : Delivery := .lost "no answer"

/-- The data of a state after what became of its requests, in their order. -/
def ofDeliveries (client : Client) (navigation : Navigation) (limit : Nat)
    (deliveries : List Delivery) : Data :=
  match navigation.filter with
  | .error failure => banner failure.message true true
  | .ok filter =>
    ofResults client
      (client.searchResult (.search filter limit none) (deliveries.head?.getD missing))
      (client.countsResult (.counts filter) (deliveries.tail.head?.getD missing))

end Data

/-- Sends the requests of a state and puts together what becomes of them. -/
def load {m : Type → Type} [Monad m] (client : Client) (send : ApiRequest → m Delivery)
    (navigation : Navigation) (limit : Nat) : m Data := do
  let deliveries ← (Data.requests navigation limit).mapM send
  return Data.ofDeliveries client navigation limit deliveries

end HostDashboard
