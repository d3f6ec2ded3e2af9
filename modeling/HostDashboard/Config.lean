/-
**Settings of the dashboard server.**

The defaults are those of the command line; a document must give every setting.
-/

import HostDashboard.Json.Decode

namespace HostDashboard

/-- Settings of the dashboard server. -/
structure Config where
  /-- The address on which the server listens. -/
  bind : String := "127.0.0.1"
  /-- The port on which it listens. -/
  port : Nat := 3000
  /-- Where the search API is. -/
  apiBaseUrl : String := "http://localhost:8080"
  /-- How many hosts a search asks for. -/
  searchLimit : Nat := 50
  /-- After how many idle seconds a session is dropped. -/
  sessionSeconds : Nat := 1800
  deriving DecidableEq, Repr, Inhabited

namespace Config

open Document in
/-- Takes settings out of a document. -/
def ofDocument? (document : Document) : Option Config := do
  let fields ← document.fields?
    ["bind", "port", "api_base_url", "search_limit", "session_ttl_secs"]
  return {
    bind := ← required? fields "bind" asText?
    port := ← required? fields "port" (asNat? 16)
    apiBaseUrl := ← required? fields "api_base_url" asText?
    searchLimit := ← required? fields "search_limit" (asNat? 64)
    sessionSeconds := ← required? fields "session_ttl_secs" (asNat? 64) }

/-- Settings as a record. -/
def toJson (config : Config) : Json :=
  .record [("bind", .text config.bind), ("port", .ofNat config.port),
    ("api_base_url", .text config.apiBaseUrl), ("search_limit", .ofNat config.searchLimit),
    ("session_ttl_secs", .ofNat config.sessionSeconds)]

end Config

end HostDashboard
