/-
**The open sessions.**

A `Registry` holds every session that was opened, by name, with the time of its last use. A session
that was closed can no longer be found by its name, but an operation that already has it may still
finish on it, so it is marked as closed and kept.

Time is counted in nanoseconds on a clock of the registry's own.
-/

import HostDashboard.Session.Basic
import HostDashboard.Session.Id

namespace HostDashboard

/-- A session in the registry. -/
structure Entry where
  session : Session
  /-- The time of its last use. -/
  touchedAt : Nat
  /-- It can be found by its name. -/
  isOpen : Bool := true
  deriving DecidableEq

/-- The sessions that were opened. -/
structure Registry where
  /-- The time now. -/
  now : Nat := 0
  /-- The sessions, the oldest first. -/
  entries : List (SessionId × Entry) := []
  deriving DecidableEq

namespace Registry

/-- A second of the clock. -/
def perSecond : Nat := 1000000000

/-- The entry of a name, open or closed. -/
def entry? (registry : Registry) (id : SessionId) : Option Entry := registry.entries.lookup id

/-- The open session of a name. -/
def session? (registry : Registry) (id : SessionId) : Option Session :=
  ((registry.entry? id).filter Entry.isOpen).map Entry.session

/-- The failure to find a session. -/
def unknown (id : SessionId) : Failure := .notFound ("session " ++ id.print)

/-- Changes the entry of a name. -/
def modify (registry : Registry) (id : SessionId) (change : Entry → Entry) : Registry :=
  { registry with entries := registry.entries.map fun (name, entry) =>
      if name = id then (name, change entry) else (name, entry) }

/-- Changes the session of a name. -/
def update (registry : Registry) (id : SessionId) (change : Session → Session) : Registry :=
  registry.modify id fun entry => { entry with session := change entry.session }

/-- Notes that a session is used now. -/
def touch (registry : Registry) (id : SessionId) : Registry :=
  registry.modify id fun entry => { entry with touchedAt := registry.now }

/-- Adds a session that was opened now. -/
def add (registry : Registry) (id : SessionId) (session : Session) : Registry :=
  { registry with entries := registry.entries ++ [(id, { session, touchedAt := registry.now })] }

def close (registry : Registry) (id : SessionId) : Registry :=
  registry.modify id fun entry => { entry with isOpen := false }

/-- The number of open sessions. -/
def openCount (registry : Registry) : Nat :=
  (registry.entries.filter fun (_, entry) => entry.isOpen).length

/-- Lets time pass. -/
def elapse (registry : Registry) (nanoseconds : Nat) : Registry :=
  { registry with now := registry.now + nanoseconds }

/-- Closes every session that has not been used for more than some seconds. -/
def evictIdle (registry : Registry) (seconds : Nat) : Registry :=
  { registry with entries := registry.entries.map fun (name, entry) =>
      (name, { entry with
        isOpen := entry.isOpen && registry.now ≤ entry.touchedAt + seconds * perSecond }) }

end Registry

end HostDashboard
