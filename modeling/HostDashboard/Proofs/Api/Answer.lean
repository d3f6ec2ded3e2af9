/-
**What is made of a printed answer.**

An answer of the search API is a text. When the text is a printed value, what the client makes of it
depends on the characters of that value alone (`Client.result_print`), and so do the data of a refresh
(`Data.ofDeliveries_print`) and the batch of a continuation (`Registry.batch_print`).
-/

import HostDashboard.Json.Printer
import HostDashboard.Proofs.Session.Provenance
import HostDashboard.Registry.Operation

namespace HostDashboard

/-- Reading a printed value is reading its characters. -/
theorem Document.parse?_print (value : Json) :
    Document.parse? value.print = Document.read? value.write := by
  unfold Document.parse? Json.print
  rw [String.toList_ofList]

section

variable {client : Client} {navigation : Navigation} {filter : Filter} {limit : Nat}

/-- A successful answer is taken as what its characters say. -/
theorem Client.result_print {Value : Type} {decode : Document → Option Value} {body : Json}
    {value : Value} (read : (Document.read? body.write).bind decode = some value)
    (request : ApiRequest) :
    client.result request decode (.answered 200 body.print) = .ok value := by
  rw [Client.result, if_pos (by decide), Document.parse?_print, read]

theorem Data.ofDeliveries_print (built : navigation.filter = .ok filter) {body countsBody : Json}
    {found : SearchResponse} {counts : Counts}
    (read : (Document.read? body.write).bind SearchResponse.ofDocument? = some found)
    (readCounts : (Document.read? countsBody.write).bind Counts.ofAnswer? = some counts) :
    Data.ofDeliveries client navigation limit
        [.answered 200 body.print, .answered 200 countsBody.print] =
      { hosts := found.hosts, counts, nextPageToken := found.nextPageToken } := by
  unfold Data.ofDeliveries
  rw [built]
  show Data.ofResults client (client.result _ _ (.answered 200 body.print))
    (client.result _ _ (.answered 200 countsBody.print)) = _
  rw [Client.result_print read, Client.result_print readCounts]
  rfl

theorem Registry.batch_print {ticket : MoreTicket} (built : ticket.navigation.filter = .ok filter)
    {body : Json} {found : SearchResponse}
    (read : (Document.read? body.write).bind SearchResponse.ofDocument? = some found) :
    Registry.batch client limit ticket [.answered 200 body.print] =
      .ok (found.hosts, found.nextPageToken) := by
  have result : client.searchResult (.search filter limit (some ticket.pageToken))
      (.answered 200 body.print) = .ok found := Client.result_print read _
  simp only [Registry.batch, built, List.head?_cons, Option.getD_some, result]

end

/-! ### An answer with one host -/

deriving instance DecidableEq for SearchResponse

/-- A client without a server. -/
def Client.plain : Client := ⟨{ scheme := "http".toList, host := none, path := .segments [] }⟩

def Navigation.ofCountry (country : String) : Navigation :=
  { selections := { countries := [country] } }

/-- One host, and a token to go on with. -/
def SearchResponse.oneHost : SearchResponse :=
  { hosts := [.plain "a"], nextPageToken := some "t" }

/-- What became of the requests of a refresh, if one host was found and nothing was counted. -/
def Delivery.oneHost : List Delivery :=
  [.answered 200 SearchResponse.oneHost.toJson.print, .answered 200 (Json.record []).print]

theorem read_oneHost : (Document.read? SearchResponse.oneHost.toJson.write).bind
    SearchResponse.ofDocument? = some .oneHost := by decide +kernel

theorem Data.ofDeliveries_oneHost (country : String) (limit : Nat) :
    Data.ofDeliveries .plain (.ofCountry country) limit Delivery.oneHost =
      { hosts := [.plain "a"], nextPageToken := some "t" } := by
  have built : (Navigation.ofCountry country).filter = .ok _ := rfl
  have readCounts : (Document.read? (Json.record []).write).bind Counts.ofAnswer? = some {} := by
    decide +kernel
  exact Data.ofDeliveries_print built read_oneHost readCounts

theorem Registry.batch_oneHost (country pageToken : String) (generation limit : Nat) :
    Registry.batch .plain limit ⟨generation, .ofCountry country, pageToken⟩
      (Delivery.oneHost.take 1) = .ok ([.plain "a"], some "t") := by
  have built : (Navigation.ofCountry country).filter = .ok _ := rfl
  exact Registry.batch_print built read_oneHost

end HostDashboard
