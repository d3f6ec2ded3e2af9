/-
**Events of a session, and what a subscriber gets of them.**

A session keeps the list of all events that it has emitted, oldest first. A subscriber is a position
in that list. The channel keeps the latest 32 events: a subscriber that is further behind is told how
many it has lost, and goes on with those that are kept.
-/

import HostDashboard.Json.Printer

namespace HostDashboard

/-- What happens to the data of a session. -/
inductive SessionEvent where
  /-- A refresh has begun. -/
  | loading (generation : Nat)
  /-- Hosts have arrived; so many are held now. -/
  | loaded (generation total : Nat)
  /-- A refresh or a continuation has failed. -/
  | failed (generation : Nat) (message : String)
  deriving DecidableEq, Repr

/-- What a subscriber gets. -/
inductive Notice where
  | event (emitted : SessionEvent)
  /-- Events that were lost. -/
  | lagged (lost : Nat)
  deriving DecidableEq, Repr

namespace SessionEvent

/-- The generation that an event belongs to. -/
def generation : SessionEvent → Nat
  | loading generation => generation
  | loaded generation _ => generation
  | failed generation _ => generation

/-- An event as a record that begins with its type. -/
def toJson : SessionEvent → Json
  | loading generation =>
    .record [("type", .text "loading"), ("generation", .ofNat generation)]
  | loaded generation total =>
    .record [("type", .text "loaded"), ("generation", .ofNat generation), ("total", .ofNat total)]
  | failed generation message =>
    .record [("type", .text "failed"), ("generation", .ofNat generation),
      ("message", .text message)]

def text (event : SessionEvent) : String := event.toJson.print

end SessionEvent

/-- The text of what a subscriber gets. -/
def Notice.text : Notice → String
  | event emitted => emitted.text
  | lagged lost => (Json.record [("type", .text "lagged"), ("skipped", .ofNat lost)]).print

/-- How many events the channel keeps. -/
def keptEvents : Nat := 32

/-- What a subscriber at a position gets from the events emitted so far. -/
def noticesSince (position : Nat) (events : List SessionEvent) : List Notice :=
  let due := events.drop position
  if due.length ≤ keptEvents then due.map .event
  else .lagged (due.length - keptEvents) :: (due.drop (due.length - keptEvents)).map .event

end HostDashboard
