/-
**Hosts as the search API reports them.**

A host has an address, the autonomous system that it belongs to, a place on the map and the services
that answered there.

* `openPorts` and `protocols` list what its services use, each once and in order;
* `Service.httpDetails` prefers what was seen over TLS;
* `Service.header?` finds a header by its name, whatever its case.
-/

import HostDashboard.Dictionary
import HostDashboard.Decimal.Binary64
import HostDashboard.Time.Instant

namespace HostDashboard

/-- An answer to a request over HTTP. -/
structure HttpDetails where
  /-- The status line. -/
  status : String
  /-- The status as a number. -/
  statusCode : Nat
  /-- The values of every header, in order. -/
  headers : Dictionary (List String)
  deriving DecidableEq

/-- What a service says over SSH. -/
structure SshDetails where
  banner : String
  deriving DecidableEq, Repr

/-- A service of a host. -/
structure Service where
  ip : Option String
  port : Nat
  protocol : String
  transport : String
  tls : Bool
  lastScan : Time.Instant
  https : Option HttpDetails
  http : Option HttpDetails
  ssh : Option SshDetails
  deriving DecidableEq

/-- The autonomous system of a host. -/
structure AutonomousSystem where
  number : Nat
  organization : String
  country : String
  deriving DecidableEq, Repr

/-- The place of a host. -/
structure Location where
  longitude : Decimal.Binary64
  latitude : Decimal.Binary64
  city : String
  timezone : String
  deriving DecidableEq, Repr

structure Host where
  id : String
  ip : String
  /-- The address as a number. -/
  ipNumber : Nat
  asn : AutonomousSystem
  location : Location
  firstSeen : Time.Instant
  lastSeen : Time.Instant
  services : List Service
  deriving DecidableEq

namespace Service

/-- The answer over TLS if there is one, and else the one without. -/
def httpDetails (service : Service) : Option HttpDetails := service.https <|> service.http

/-- Two names differ at most in the case of ASCII letters. -/
def sameName (first second : String) : Bool :=
  first.toList.map Char.toLower == second.toList.map Char.toLower

/-- The values of the first header with a name, in the order of header names. -/
def header? (service : Service) (name : String) : Option (List String) :=
  service.httpDetails.bind fun details =>
    (details.headers.entries.find? fun entry => sameName entry.1 name).map Prod.snd

end Service

namespace Host

/-- The city of a host whose place is not known. -/
def unknownCity : String := "Unknown"

/-- The place of the host is known. -/
def hasLocation (host : Host) : Bool := host.location.city != unknownCity

/-- The host was not last seen before it was first seen. -/
def isConsistent (host : Host) : Bool := host.firstSeen.notAfter host.lastSeen

/-- A list with one more value at its end, unless it is there. -/
def appendNew {α : Type} [DecidableEq α] (values : List α) (value : α) : List α :=
  if value ∈ values then values else values ++ [value]

/-- The distinct values of some, in the order in which they first occur. -/
def distinct {α : Type} [DecidableEq α] (values : List α) : List α := values.foldl appendNew []

/-- The ports of the services. -/
def openPorts (host : Host) : List Nat := distinct (host.services.map Service.port)

/-- The protocols of the services. -/
def protocols (host : Host) : List String := distinct (host.services.map Service.protocol)

end Host

end HostDashboard
