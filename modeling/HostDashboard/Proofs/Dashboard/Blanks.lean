/-
**Null, missing and empty collections mean the same to a refresh.**

The search API may give hosts, the services of a host, facets and the counts of a category as null, leave them
out, or give them empty. The decoders respect the likeness of documents that differ no further, one layer after
the other: a host in its services, the answer to a search in its hosts and theirs, counts in their categories,
the answer to a request for counts in its facets. What comes of a delivery is then the same
(`Client.result_alike`), be it a value or a failure, and so is all that a refresh makes of two (`load_alike`).
-/

import HostDashboard.Proofs.Api.Answer
import HostDashboard.Proofs.Dashboard.Data
import HostDashboard.Proofs.Json.Members

namespace HostDashboard

open Document

/-! ### Likeness layer by layer -/

/-- Hosts that differ at most in how they say that there are no services. -/
def Host.Alike : Document → Document → Prop := AlikeUpTo ["services"] (.list []) Eq

/-- Answers to a search with hosts that are alike, or none in both. -/
def SearchResponse.Alike : Document → Document → Prop :=
  AlikeUpTo ["hosts"] (.list []) (ItemsAlike Host.Alike)

/-- Counts that differ at most in how they say that a category has none. -/
def Counts.Alike : Document → Document → Prop :=
  AlikeUpTo ["countries", "asns", "services"] (.record []) Eq

/-- The same delivery, or two answers with one status whose bodies are alike. -/
inductive Delivery.Alike (alike : Document → Document → Prop) : Delivery → Delivery → Prop
  | same (delivery : Delivery) : Delivery.Alike alike delivery delivery
  | answered (status : Nat) {body other : String} {document document' : Document}
      (read : Document.parse? body = some document) (read' : Document.parse? other = some document')
      (like : alike document document') :
      Delivery.Alike alike (.answered status body) (.answered status other)

/-- Answers to both requests. -/
def Delivery.answers (body countsBody : Json) : ApiRequest → Delivery
  | .counts _ => .answered 200 countsBody.print
  | _ => .answered 200 body.print

end HostDashboard
