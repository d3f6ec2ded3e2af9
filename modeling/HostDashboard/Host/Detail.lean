/-
**The detail view of one host, and looking for it.**

A `HostDetail` repeats the host and summarises its services, one line each and in order. A lookup
either finds that view or tells the address that it did not find. The address loses its blanks; an
empty one is not looked for, any other is asked for once, and every failure means that the host was
not found (`lookupHost`).
-/

import HostDashboard.Api.Client

namespace HostDashboard

/-- One line of the detail view. -/
structure ServiceSummary where
  port : Nat
  protocol : String
  transport : String
  tls : Bool
  /-- The status of the answer over HTTP. -/
  httpStatus : Option Nat
  /-- The first value of the header `Server`. -/
  server : Option String
  /-- What the service says over SSH. -/
  banner : Option String
  deriving DecidableEq, Repr

/-- The detail view of a host. -/
structure HostDetail where
  host : Host
  openPorts : List Nat
  protocols : List String
  services : List ServiceSummary
  deriving DecidableEq

/-- The outcome of looking for a host. -/
inductive HostLookup where
  | found (detail : HostDetail)
  | notFound (ip : String)
  deriving DecidableEq

/-- The line of a service. -/
def Service.summary (service : Service) : ServiceSummary where
  port := service.port
  protocol := service.protocol
  transport := service.transport
  tls := service.tls
  httpStatus := service.httpDetails.map HttpDetails.statusCode
  server := (service.header? "server").bind List.head?
  banner := service.ssh.map SshDetails.banner

/-- The detail view of a host. -/
def Host.detail (host : Host) : HostDetail where
  host
  openPorts := host.openPorts
  protocols := host.protocols
  services := host.services.map Service.summary

/-- One line as a record. -/
def ServiceSummary.toJson (summary : ServiceSummary) : Json :=
  .record ([("port", .ofNat summary.port), ("protocol", .text summary.protocol),
      ("transport", .text summary.transport), ("tls", .bool summary.tls)]
    ++ memberIfSome "http_status" (summary.httpStatus.map .ofNat)
    ++ memberIfSome "server" (summary.server.map .text)
    ++ memberIfSome "banner" (summary.banner.map .text))

/-- The outcome of looking for a host as a record with its status. -/
def HostLookup.toJson : HostLookup → Json
  | found detail =>
    .record [("status", .text "found"), ("host", detail.host.toJson),
      ("open_ports", .list (detail.openPorts.map .ofNat)), ("protocols", .texts detail.protocols),
      ("services", .list (detail.services.map ServiceSummary.toJson))]
  | notFound ip => .record [("status", .text "not_found"), ("ip", .text ip)]

/-! ### Looking for a host -/

/-- The outcome of a request for a host. -/
def HostLookup.ofResult (ip : String) : Except Failure Host → HostLookup
  | .ok host => .found host.detail
  | .error _ => .notFound ip

/-- The request for an address, unless it is empty. -/
def HostLookup.request? (address : String) : Option ApiRequest :=
  if Text.isBlankText address then none else some (.host (Text.trimmed address))

def lookupHost {m : Type → Type} [Monad m] (client : Client) (send : ApiRequest → m Delivery)
    (address : String) : m HostLookup := do
  let ip := Text.trimmed address
  match HostLookup.request? address with
  | none => return .notFound ip
  | some request => return .ofResult ip (client.hostResult ip (← send request))

end HostDashboard
