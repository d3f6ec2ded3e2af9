/-
**The endpoints of the dashboard server, and what it says about itself.**

`Endpoint.find?` tells which endpoint a method and a path name. The path is cut at its slashes after
its escapes are undone, except those of `%`, `/` and `+`, which therefore never cut; a parameter loses
the remaining ones.

The root of the server answers with the record `index`: its name and version, and its endpoints.
-/

import HostDashboard.Json.Basic
import HostDashboard.Session.Id
import HostDashboard.Text.Escape

namespace HostDashboard.Web

/-- What can be done with one session. -/
inductive SessionAction where
  | «show»
  | close
  | navigate
  | search
  | toggle
  | discard
  | apply
  | goTo
  | more
  | events
  deriving DecidableEq, Repr

/-- An endpoint with its parameter. -/
inductive Endpoint where
  /-- What the server is. -/
  | index
  /-- A page without a session. -/
  | dashboard
  /-- One host. -/
  | host (address : String)
  /-- Opening a session. -/
  | opening
  /-- Something with one session. -/
  | session (name : List Char) (action : SessionAction)
  deriving DecidableEq, Repr

namespace Endpoint

/-- The escapes that are undone before the path is cut. -/
def isCutSafe (octet : UInt8) : Bool := !(octet = 0x25 || octet = 0x2F || octet = 0x2B)

/-- A path with the escapes undone that do not matter for cutting it. -/
def readable (path : List Char) : List Char :=
  Text.Utf8.decode (Text.Percent.unescapeOnly isCutSafe (Text.Utf8.encode path))

/-- The action of a method and the path behind the name of a session. -/
def action? (method : String) : List String → Option SessionAction
  | [] => if method = "GET" then some .show else if method = "DELETE" then some .close else none
  | ["navigate"] => if method = "POST" then some .navigate else none
  | ["search"] => if method = "POST" then some .search else none
  | ["facets", "toggle"] => if method = "POST" then some .toggle else none
  | ["facets", "reset"] => if method = "POST" then some .discard else none
  | ["facets", "apply"] => if method = "POST" then some .apply else none
  | ["page"] => if method = "POST" then some .goTo else none
  | ["more"] => if method = "GET" then some .more else none
  | ["ws"] => if method = "GET" then some .events else none
  | _ => none

/-- The endpoint of a method and the pieces of a path. -/
def ofPieces? (method : String) : List String → Option Endpoint
  | ["", ""] => if method = "GET" then some .index else none
  | ["", "api", "dashboard"] => if method = "GET" then some .dashboard else none
  | ["", "api", "hosts", address] =>
    if method = "GET" ∧ address ≠ "" then
      some (.host (String.ofList (Text.Percent.decode address.toList)))
    else none
  | ["", "api", "sessions"] => if method = "POST" then some .opening else none
  | "" :: "api" :: "sessions" :: name :: rest =>
    if name = "" then none
    else (action? method rest).map (.session (Text.Percent.decode name.toList))
  | _ => none

def find? (method : String) (path : List Char) : Option Endpoint :=
  ofPieces? method ((Text.pieces '/' (readable path)).map String.ofList)

end Endpoint

/-! ### What the server says about itself -/

def programName : String := "hostlens"

def programVersion : String := "0.1.0"

/-- One endpoint as the server describes it. -/
structure EndpointInfo where
  path : String
  method : String
  description : String
  deriving DecidableEq, Repr

/-- The endpoints in the order in which they are described. -/
def endpointInfos : List EndpointInfo :=
  [⟨"/api/dashboard", "GET",
      "Compose a dashboard page from countries, asns, services, filter, query and page parameters"⟩,
   ⟨"/api/hosts/\x7bip\x7d", "GET", "Get details of a single host"⟩,
   ⟨"/api/sessions", "POST", "Open a dashboard session"⟩,
   ⟨"/api/sessions/\x7bid\x7d", "GET", "Get the current view of a session"⟩,
   ⟨"/api/sessions/\x7bid\x7d", "DELETE", "Close a session"⟩,
   ⟨"/api/sessions/\x7bid\x7d/navigate", "POST", "Replace the session's URL state"⟩,
   ⟨"/api/sessions/\x7bid\x7d/search", "POST", "Submit a field: value search"⟩,
   ⟨"/api/sessions/\x7bid\x7d/facets/toggle", "POST", "Stage a facet selection change"⟩,
   ⟨"/api/sessions/\x7bid\x7d/facets/reset", "POST", "Discard staged facet changes"⟩,
   ⟨"/api/sessions/\x7bid\x7d/facets/apply", "POST",
      "Apply staged facet changes and search again"⟩,
   ⟨"/api/sessions/\x7bid\x7d/page", "POST", "Go to a result page"⟩,
   ⟨"/api/sessions/\x7bid\x7d/more", "GET", "Fetch the next batch of results"⟩,
   ⟨"/api/sessions/\x7bid\x7d/ws", "GET", "WebSocket endpoint for load state updates"⟩]

/-- What the root of the server answers with. -/
def index : Json :=
  .record [("name", .text programName), ("version", .text programVersion),
    ("description", .text
      "Dashboard backend for searching and inspecting internet-connected hosts"),
    ("endpoints", .list (endpointInfos.map fun info =>
      .record [("path", .text info.path), ("method", .text info.method),
        ("description", .text info.description)]))]

end HostDashboard.Web
