/-
**Requests and answers as records on lines.**

The program has no sockets of its own. A front end holds them: it hands every request to the server
as a record on a line, and gets the reply in the same way. Before the reply the server may ask the
front end to carry requests to the search API, and is told what became of each.

* `Request.ofLine?` reads a request, `Reply.line` writes a reply;
* `carriage` writes a request to the search API, `Delivery.ofLine?` reads what became of it.
-/

import HostDashboard.Web.Exchange

namespace HostDashboard

namespace Web

/-- Reads a request to the server. A front end that carries single requests cannot go on over a
WebSocket. -/
def Request.ofLine? (line : String) : Option Request := do
  let fields ← (← Document.parse? line).fields? ["method", "uri", "content_type", "body"]
  return {
    method := ← Document.required? fields "method" Document.asText?
    uri := ← Document.required? fields "uri" Document.asText?
    contentType := ← Document.optional? fields "content_type" none
      (Document.orNull? Document.asText?)
    body := ← Document.optional? fields "body" none (Document.orNull? Document.asText?) }

def Reply.line : Reply → String
  | .answer status body => (Json.record [("status", .ofNat status), ("body", .orNull body)]).print
  | .socket id =>
    (Json.record [("status", .ofNat 101), ("session_id", .text id.print)]).print

/-- The line of a request to the search API. -/
def carriage (client : Client) (request : ApiRequest) : String :=
  (Json.record [("get", .text (client.link request).print)]).print

end Web

/-- Reads what became of a request to the search API: a status and a body, or nothing. -/
def Delivery.ofLine? (line : String) : Option Delivery := do
  let fields ← (← Document.parse? line).fields? ["status", "body"]
  return .answered (← Document.required? fields "status" (Document.asNat? 16))
    (← Document.required? fields "body" Document.asText?)

end HostDashboard
