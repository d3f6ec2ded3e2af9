/-
**What can go wrong, and how it is told.**

Every failure has one text (`message`) and one status with which a request that meets it is answered
(`httpStatus`).
-/

import HostDashboard.Decimal.Natural

namespace HostDashboard

/-- The cause of a failure. -/
inductive Failure where
  /-- The search API could not be reached, or broke off its answer. -/
  | transport (reason : String)
  /-- The search API answered with a status other than success. -/
  | status (code : Nat)
  /-- A selection, a fragment or an answer has no meaning. -/
  | malformed (what : String)
  /-- There is no such host or session. -/
  | notFound (what : String)
  /-- A setting cannot be used. -/
  | configuration (what : String)
  /-- A text is not JSON of the expected shape. -/
  | json (reason : String)
  /-- The system refused an operation. -/
  | io (reason : String)
  deriving DecidableEq, Repr

namespace Failure

def message : Failure → String
  | transport reason => "Transport error: " ++ reason
  | status code => "API error: " ++ Decimal.text code
  | malformed what => "Parse error: " ++ what
  | notFound what => "Not found: " ++ what
  | configuration what => "Configuration error: " ++ what
  | json reason => "JSON error: " ++ reason
  | io reason => "I/O error: " ++ reason

/-- The status of the answer to a request that fails so. -/
def httpStatus : Failure → Nat
  | notFound _ => 404
  | malformed _ => 400
  | json _ => 400
  | transport _ => 502
  | status _ => 502
  | configuration _ => 500
  | io _ => 500

/-- What an answer of the search API with some status means, if it means a failure. -/
def ofStatus? (code : Nat) : Option Failure :=
  if 400 ≤ code ∧ code < 600 then some (.status code) else none

end Failure

end HostDashboard
