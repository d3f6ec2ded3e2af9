/-
**Hosts as JSON.**

Decoders take a host out of a document, encoders make a record of one. Texts that the API may leave
out are empty then, services that it gives as null are none, and blocks that a service does not have
are not written.
-/

import HostDashboard.Host.Basic
import HostDashboard.Json.Decode
import HostDashboard.Json.Printer

namespace HostDashboard

open Document

def Time.Instant.ofDocument? (document : Document) : Option Time.Instant :=
  document.asText?.bind parse?

/-- Takes the answer to an HTTP request out of a document. -/
def HttpDetails.ofDocument? (document : Document) : Option HttpDetails := do
  let fields ← document.fields? ["status", "statusCode", "responseHeaders"]
  return {
    status := ← required? fields "status" asText?
    statusCode := ← required? fields "statusCode" (asNat? 16)
    headers := ← optional? fields "responseHeaders" .empty (asDictionary? (asList? asText?)) }

/-- Takes what was said over SSH out of a document. -/
def SshDetails.ofDocument? (document : Document) : Option SshDetails := do
  let fields ← document.fields? ["banner"]
  return { banner := ← required? fields "banner" asText? }

def Service.ofDocument? (document : Document) : Option Service := do
  let fields ← document.fields?
    ["ip", "port", "protocol", "transport", "tls", "last_scan", "https", "http", "ssh"]
  return {
    ip := ← optional? fields "ip" none (orNull? asText?)
    port := ← required? fields "port" (asNat? 16)
    protocol := ← required? fields "protocol" asText?
    transport := ← required? fields "transport" asText?
    tls := ← optional? fields "tls" false asBool?
    lastScan := ← required? fields "last_scan" Time.Instant.ofDocument?
    https := ← optional? fields "https" none (orNull? HttpDetails.ofDocument?)
    http := ← optional? fields "http" none (orNull? HttpDetails.ofDocument?)
    ssh := ← optional? fields "ssh" none (orNull? SshDetails.ofDocument?) }

def AutonomousSystem.ofDocument? (document : Document) : Option AutonomousSystem := do
  let fields ← document.fields? ["number", "organization", "country"]
  return {
    number := ← required? fields "number" (asNat? 32)
    organization := ← optional? fields "organization" "" asText?
    country := ← optional? fields "country" "" asText? }

/-- Takes a pair of numbers out of a document. -/
def coordinates? : Document → Option (Decimal.Binary64 × Decimal.Binary64)
  | .list [longitude, latitude] => do return (← longitude.asReal?, ← latitude.asReal?)
  | _ => none

/-- Takes a place out of a document. -/
def Location.ofDocument? (document : Document) : Option Location := do
  let fields ← document.fields? ["coordinates", "city", "timezone"]
  let (longitude, latitude) ← required? fields "coordinates" coordinates?
  return {
    longitude, latitude
    city := ← required? fields "city" asText?
    timezone := ← optional? fields "timezone" "" asText? }

def Host.ofDocument? (document : Document) : Option Host := do
  let fields ← document.fields?
    ["id", "ip", "ip_int", "asn", "location", "first_seen", "last_seen", "services"]
  return {
    id := ← required? fields "id" asText?
    ip := ← required? fields "ip" asText?
    ipNumber := ← required? fields "ip_int" (asNat? 64)
    asn := ← required? fields "asn" AutonomousSystem.ofDocument?
    location := ← required? fields "location" Location.ofDocument?
    firstSeen := ← required? fields "first_seen" Time.Instant.ofDocument?
    lastSeen := ← required? fields "last_seen" Time.Instant.ofDocument?
    services := ← optional? fields "services" [] (orDefault? [] (asList? Service.ofDocument?)) }

/-- A member that is written only when it has a value. -/
def memberIfSome (name : String) (value : Option Json) : List (String × Json) :=
  value.toList.map fun json => (name, json)

/-- The answer to an HTTP request as a record. -/
def HttpDetails.toJson (details : HttpDetails) : Json :=
  .record [("status", .text details.status), ("statusCode", .ofNat details.statusCode),
    ("responseHeaders", .record (details.headers.entries.map fun entry =>
      (entry.1, .texts entry.2)))]

/-- What was said over SSH as a record. -/
def SshDetails.toJson (details : SshDetails) : Json := .record [("banner", .text details.banner)]

def Service.toJson (service : Service) : Json :=
  .record (memberIfSome "ip" (service.ip.map .text)
    ++ [("port", .ofNat service.port), ("protocol", .text service.protocol),
      ("transport", .text service.transport), ("tls", .bool service.tls),
      ("last_scan", .text service.lastScan.print)]
    ++ memberIfSome "https" (service.https.map HttpDetails.toJson)
    ++ memberIfSome "http" (service.http.map HttpDetails.toJson)
    ++ memberIfSome "ssh" (service.ssh.map SshDetails.toJson))

def AutonomousSystem.toJson (asn : AutonomousSystem) : Json :=
  .record [("number", .ofNat asn.number), ("organization", .text asn.organization),
    ("country", .text asn.country)]

/-- A place as a record. -/
def Location.toJson (location : Location) : Json :=
  .record [("coordinates", .list [.ofReal location.longitude, .ofReal location.latitude]),
    ("city", .text location.city), ("timezone", .text location.timezone)]

def Host.toJson (host : Host) : Json :=
  .record [("id", .text host.id), ("ip", .text host.ip), ("ip_int", .ofNat host.ipNumber),
    ("asn", host.asn.toJson), ("location", host.location.toJson),
    ("first_seen", .text host.firstSeen.print), ("last_seen", .text host.lastSeen.print),
    ("services", .list (host.services.map Service.toJson))]

end HostDashboard
