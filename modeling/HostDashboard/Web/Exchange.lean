/-
**Answering requests to the dashboard server.**

`serve` finds the endpoint of a request, takes the parameters out of its link and its body, runs the
operation and makes an answer of what it gives.

* An unknown endpoint or a malformed session name is answered with 404, a body that is not the JSON
  that the endpoint needs with 400, both without a record.
* A failure is answered with its status and its message.
-/

import HostDashboard.Host.Detail
import HostDashboard.Registry.Operation
import HostDashboard.Web.Endpoint

namespace HostDashboard.Web

/-- A request to the server. -/
structure Request where
  method : String
  /-- The path, and the query after a question mark. -/
  uri : String
  contentType : Option String := none
  body : Option String := none
  /-- The client wants to go on over a WebSocket. -/
  wantsSocket : Bool := false
  deriving DecidableEq, Repr

/-- What the server answers. -/
inductive Reply where
  /-- A status, and a record if it is the server's own. -/
  | answer (status : Nat) (body : Option Json)
  /-- A WebSocket with the events of a session. -/
  | socket (id : SessionId)

/-- The server: its client of the search API, its limit, and the sessions. -/
structure Server where
  client : Client
  /-- How many hosts a search asks for. -/
  searchLimit : Nat
  registry : Registry := {}

namespace Request

/-- The link without a fragment. -/
def link (request : Request) : List Char := (Text.cut '#' request.uri.toList).1

def path (request : Request) : List Char := (Text.cut '?' request.link).1

/-- The query, empty if there is none. -/
def query (request : Request) : List Char := (Text.cut '?' request.link).2.getD []

/-- A type of content is JSON: `json` as the subtype, or behind a plus sign. -/
def isJsonType (contentType : String) : Bool :=
  let essence := Text.trim (Text.cut ';' contentType.toList).1
  match Text.cut '/' (essence.map Char.toLower) with
  | (_ :: _, some subtype) =>
    let parts := Text.pieces '+' subtype
    parts.head? = some "json".toList || parts.getLast? = some "json".toList
  | _ => false

/-- The JSON of the body, if the body says that it is some. -/
def json? (request : Request) : Option Document := do
  let contentType ← request.contentType
  if isJsonType contentType then Document.parse? (request.body.getD "") else none

/-- The page number in the query: one unless it is given once and is a number. -/
def page (request : Request) : Int :=
  match (Text.Form.pairs request.query).filter fun pair => pair.1 = "page".toList with
  | [(_, number)] => (Decimal.readSigned? number).getD 1
  | _ => 1

/-- A body of one optional member: the link that a tab was opened with. -/
def location? (body : Document) : Option (Option String) := do
  let fields ← body.fields? ["location"]
  Document.optional? fields "location" none (Document.orNull? Document.asText?)

def typed? (body : Document) : Option String := do
  let fields ← body.fields? ["query"]
  Document.required? fields "query" Document.asText?

/-- A body that names a box of the sidebar. -/
def box? (body : Document) : Option (Category × String) := do
  let fields ← body.fields? ["category", "value"]
  let category ← Document.required? fields "category" Category.ofDocument?
  let value ← Document.required? fields "value" Document.asText?
  return (category, value)

/-- A body of one number: the page to go to. -/
def target? (body : Document) : Option Int := do
  let fields ← body.fields? ["page"]
  Document.required? fields "page" Document.asSigned?

end Request

namespace Reply

/-- A record with a status of its own and a message. -/
def told (status : Nat) (outcome message : String) : Reply :=
  .answer status (some (.record [("status", .text outcome), ("message", .text message)]))

/-- The answer to a request that fails. -/
def ofFailure (failure : Failure) : Reply := told failure.httpStatus "error" failure.message

/-- The answer that an operation gives, a page wrapped as its endpoint wants it. -/
def ofAnswer (status : Nat) (wrap : Json → Json) : Answer → Reply
  | .dashboard view => .answer status (some (wrap view.toJson))
  | .panel view => .answer status (some view.toJson)
  | .failed failure => ofFailure failure
  | .removed _ => .answer status none

/-- The answer after a session was closed, or was not there. -/
def ofRemoval (id : SessionId) : Answer → Reply
  | .removed true => told 200 "success" s!"Session {id.print} closed"
  | _ => told 404 "error" s!"Session {id.print} not found"

end Reply

/-- The operation of an action on a session, unless the body is not what it needs. -/
def SessionAction.operation? (request : Request) (id : SessionId) :
    SessionAction → Option Operation
  | .show => some (.view id)
  | .close => some (.remove id)
  | .navigate => (request.json?.bind Request.location?).map fun location =>
    .navigate id (Navigation.parse (location.getD ""))
  | .search => (request.json?.bind Request.typed?).map (.search id)
  | .toggle => (request.json?.bind Request.box?).map fun (category, value) =>
    .toggle id category value
  | .discard => some (.discard id)
  | .apply => some (.apply id)
  | .goTo => (request.json?.bind Request.target?).map (.goTo id)
  | .more => some (.more id)
  | .events => none

namespace Server

variable {m : Type → Type} [Monad m]

/-- Runs an operation and makes an answer of what it gives. -/
def answer (server : Server) (send : ApiRequest → m Delivery) (operation : Operation)
    (reply : Answer → Reply) : m (Server × Reply) := do
  let (registry, answer) ←
    server.registry.perform server.client server.searchLimit send operation
  return ({ server with registry }, reply answer)

/-- Answers a request about one session. -/
def serveSession (server : Server) (send : ApiRequest → m Delivery) (request : Request)
    (id : SessionId) (action : SessionAction) : m (Server × Reply) :=
  match action, action.operation? request id with
  | .events, _ =>
    match server.registry.session? id with
    | none => return (server, .ofFailure (Registry.unknown id))
    | some _ =>
      return (server, if request.wantsSocket then .socket id else .answer 400 none)
  | _, none => return (server, .answer 400 none)
  | .close, some operation => server.answer send operation (.ofRemoval id)
  | .goTo, some operation =>
    server.answer send operation (.ofAnswer 200 fun view =>
      .record [("scroll", .text scrollMark), ("view", view)])
  | _, some operation => server.answer send operation (.ofAnswer 200 fun view => view)

/-- Answers a request. A session that it opens gets the name `fresh`. -/
def serve (server : Server) (send : ApiRequest → m Delivery) (fresh : SessionId)
    (request : Request) : m (Server × Reply) :=
  match Endpoint.find? request.method request.path with
  | none => return (server, .answer 404 none)
  | some .index => return (server, .answer 200 (some index))
  | some .dashboard => do
    let navigation := Navigation.read request.query
    let data ← load server.client send navigation server.searchLimit
    return (server, .answer 200 (some (DashboardView.ofLink navigation request.page data).toJson))
  | some (.host address) => do
    let lookup ← lookupHost server.client send address
    let status := match lookup with
      | .found _ => 200
      | .notFound _ => 404
    return (server, .answer status (some lookup.toJson))
  | some .opening =>
    let location := (request.json?.bind Request.location?).join
    server.answer send (.create fresh (Navigation.parse (location.getD "")))
      (.ofAnswer 201 fun view => .record [("session_id", .text fresh.print), ("view", view)])
  | some (.session name action) =>
    match SessionId.read? name with
    | none => return (server, .answer 404 none)
    | some id => server.serveSession send request id action

end Server

end HostDashboard.Web
