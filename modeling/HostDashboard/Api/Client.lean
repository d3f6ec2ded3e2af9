/-
**The client of the search API.**

The API has three endpoints: a search with a filter, facet counts for a filter, and one host by its
address. A request is turned into a link below the base URL, and what comes back into a value or a
failure.

* `Client.ofBaseUrl` refuses a text that is no link and a link to which no path can be appended;
* `Client.link` appends path segments, so that no address can leave its segment, and pairs in the
  form-urlencoded format;
* `Client.searchResult`, `countsResult` and `hostResult` read what was delivered.
-/

import HostDashboard.Facets.Counts
import HostDashboard.Filter.Basic
import HostDashboard.Host.Codec
import HostDashboard.Text.Escape
import HostDashboard.Url.Reader

namespace HostDashboard

/-- A request to the search API. -/
inductive ApiRequest where
  /-- Hosts that pass a filter, at most so many, from where an earlier answer left off. -/
  | search (filter : Filter) (limit : Nat) (pageToken : Option String)
  /-- Facet counts over the hosts that pass a filter. -/
  | counts (filter : Filter)
  /-- One host. -/
  | host (ip : String)

/-- What became of a request. -/
inductive Delivery where
  /-- No complete answer came. -/
  | lost (reason : String)
  /-- An answer with its status and body. -/
  | answered (status : Nat) (body : String)
  deriving DecidableEq, Repr

/-- Hosts found by a search, and how to go on. -/
structure SearchResponse where
  hosts : List Host := []
  counts : Option Counts := none
  nextPageToken : Option String := none

/-- A client of the search API. -/
structure Client where
  /-- The link below which the endpoints are. -/
  base : Url

namespace ApiRequest

/-- How many hosts a search asks for when the caller does not say. -/
def defaultLimit : Nat := 20

/-- The path below the base. -/
def segments : ApiRequest → List (List Char)
  | search .. => ["api".toList, "hosts".toList, "search".toList]
  | counts _ => ["api".toList, "facets".toList]
  | host ip => ["api".toList, "hosts".toList, ip.toList]

/-- The pairs of the query. -/
def parameters : ApiRequest → List (List Char × List Char)
  | search filter limit pageToken =>
    [("filter".toList, filter.param.toList), ("limit".toList, Decimal.digits limit)]
      ++ pageToken.toList.map fun token => ("page_token".toList, token.toList)
  | counts filter => [("filter".toList, filter.param.toList)]
  | host _ => []

end ApiRequest

namespace Url

/-- Characters that are escaped in a segment that is appended to a path. -/
def segmentEscapes (special : Bool) : List Char :=
  pathEscapes ++ ['/', '%'] ++ (if special then ['\\'] else [])

/-- The segments of a path without an empty one at its end. -/
def openEnded (path : List (List Char)) : List (List Char) :=
  let trimmed := if 1 < path.length ∧ path.getLast? = some [] then path.dropLast else path
  if trimmed = [[]] then [] else trimmed

/-- A path with one more segment. A lone dot or two are passed over; tabs and line breaks are
dropped, and what becomes of dots then is decided as in any path. -/
def appendSegment (file special : Bool) (path : List (List Char)) (segment : List Char) :
    List (List Char) :=
  if segment = ['.'] ∨ segment = ['.', '.'] then path
  else
    let kept := segment.filter fun c => !(c = '\t' || c = '\n' || c = '\r')
    addSegment file path (escapeExcept (segmentEscapes special) kept) true

def appendPath (url : Url) (segments : List (List Char)) : Url :=
  match url.path with
  | .opaqueText _ => url
  | .segments path =>
    let special := isSpecialScheme url.scheme
    { url with
      path := .segments
        (segments.foldl (appendSegment (url.scheme == "file".toList) special) (openEnded path)) }

/-- A link with pairs appended to its query; an empty query is none. -/
def appendQuery (url : Url) (pairs : List (List Char × List Char)) : Url :=
  let old := url.query.getD []
  let added := Text.Form.write pairs
  let query := if old.isEmpty || added.isEmpty then old ++ added else old ++ '&' :: added
  { url with query := if query.isEmpty then none else some query }

end Url

namespace Client

/-- A text without slashes at its end. -/
def withoutSlashes (source : List Char) : List Char := (source.reverse.dropWhile (· = '/')).reverse

def ofBaseUrl (source : String) : Except Failure Client :=
  match Url.read (withoutSlashes source.toList) with
  | .error fault => .error (.configuration fault.message)
  | .ok url =>
    if url.canBeBase then .ok ⟨url⟩
    else .error (.configuration s!"'{url.print}' cannot be used as an API base URL")

/-- The base URL as it is shown to people. -/
def shownBase (client : Client) : String := String.ofList (withoutSlashes client.base.write)

def endpoint (client : Client) (request : ApiRequest) : Url :=
  client.base.appendPath request.segments

def link (client : Client) (request : ApiRequest) : Url :=
  (client.endpoint request).appendQuery request.parameters

/-- What a request names on its server: the path and the query. -/
def target (client : Client) (request : ApiRequest) : String :=
  String.ofList (client.link request).target

/-- The failure to make sense of an answer. -/
def unexpected (client : Client) (request : ApiRequest) : Failure :=
  .malformed s!"unexpected response from {(client.endpoint request).print}: not of the known shape"

/-- The value of a successful answer. -/
def result {α : Type} (client : Client) (request : ApiRequest) (decode : Document → Option α) :
    Delivery → Except Failure α
  | .lost reason => .error (.transport reason)
  | .answered status body =>
    if 200 ≤ status ∧ status < 300 then
      match (Document.parse? body).bind decode with
      | some value => .ok value
      | none => .error (client.unexpected request)
    else .error (.status status)

end Client

namespace SearchResponse

/-- Takes the answer to a search out of a document; null hosts are none. -/
def ofDocument? (document : Document) : Option SearchResponse := do
  let fields ← document.fields? ["hosts", "facets", "next_page_token"]
  return {
    hosts := ← Document.optional? fields "hosts" []
      (Document.orDefault? [] (Document.asList? Host.ofDocument?))
    counts := ← Document.optional? fields "facets" none (Document.orNull? Counts.ofDocument?)
    nextPageToken := ← Document.optional? fields "next_page_token" none
      (Document.orNull? Document.asText?) }

/-- The answer to a search as a record. -/
def toJson (response : SearchResponse) : Json :=
  .record ([("hosts", .list (response.hosts.map Host.toJson))]
    ++ memberIfSome "facets" (response.counts.map Counts.toJson)
    ++ memberIfSome "next_page_token" (response.nextPageToken.map .text))

end SearchResponse

/-- Takes counts out of the answer to a request for them; null counts are none. -/
def Counts.ofAnswer? (document : Document) : Option Counts := do
  let fields ← document.fields? ["facets"]
  Document.optional? fields "facets" {} (Document.orDefault? {} ofDocument?)

namespace Client

/-- What a search found. -/
def searchResult (client : Client) (request : ApiRequest) (delivery : Delivery) :
    Except Failure SearchResponse :=
  client.result request SearchResponse.ofDocument? delivery

/-- What a request for counts found. -/
def countsResult (client : Client) (request : ApiRequest) (delivery : Delivery) :
    Except Failure Counts :=
  client.result request Counts.ofAnswer? delivery

/-- What a request for a host found; the status 404 says that there is no such host. -/
def hostResult (client : Client) (ip : String) (delivery : Delivery) : Except Failure Host :=
  match client.result (.host ip) Host.ofDocument? delivery with
  | .error (.status 404) => .error (.notFound ("host " ++ ip))
  | other => other

end Client

end HostDashboard
