/-
**What a refresh brings is all or nothing.**

The two requests of a refresh may fail one without the other. The data are whole only if both succeed; else
they are empty under a banner, and each part is marked by its own request.

* `Delivery.Succeeds` says of what became of a request that it can be used, and `Client.result_isOk_iff` that
  the client uses just that;
* `Data.AllOrNothing` holds of the data of every refresh (`Data.ofDeliveries_allOrNothing`);
* `load_marks`: which parts are marked as failed.
-/

import HostDashboard.Dashboard.Data
import HostDashboard.Proofs.Filter.Sent

namespace HostDashboard

/-- A successful answer whose body says what was asked for. -/
def Delivery.Succeeds {α : Type} (decode : Document → Option α) : Delivery → Prop
  | .lost _ => False
  | .answered status body =>
    (200 ≤ status ∧ status < 300) ∧ ((Document.parse? body).bind decode).isSome

theorem Client.result_isOk_iff {α : Type} (client : Client) (request : ApiRequest)
    (decode : Document → Option α) (delivery : Delivery) :
    (∃ value, client.result request decode delivery = .ok value) ↔ delivery.Succeeds decode := by
  cases delivery with
  | lost reason => exact iff_of_false (fun ⟨_, found⟩ => nomatch found) id
  | answered status body =>
    unfold result Delivery.Succeeds
    by_cases success : 200 ≤ status ∧ status < 300
    · cases read : (Document.parse? body).bind decode <;> simp [success, read]
    · simp [success]

namespace Data

theorem loaded_eq_failed_iff (hasFailed : Bool) : loaded hasFailed = .failed ↔ hasFailed = true := by
  cases hasFailed <;> decide

/-- The data are empty under a banner, or there is no banner; and it is there exactly if a part has
failed. -/
structure AllOrNothing (data : Data) : Prop where
  empty : data.error.isSome → data.hosts = [] ∧ data.counts = {} ∧ data.nextPageToken = none
  isSome_error_iff : data.error.isSome ↔ data.searchFailed = true ∨ data.facetsFailed = true

theorem allOrNothing_banner (text : String) {searchFailed facetsFailed : Bool}
    (failed : searchFailed = true ∨ facetsFailed = true) :
    (banner text searchFailed facetsFailed).AllOrNothing :=
  ⟨fun _ => ⟨rfl, rfl, rfl⟩, iff_of_true rfl failed⟩

/-- **The data of every refresh are all or nothing**, whatever became of its requests. -/
theorem ofDeliveries_allOrNothing (client : Client) (navigation : Navigation) (limit : Nat)
    (deliveries : List Delivery) :
    (ofDeliveries client navigation limit deliveries).AllOrNothing := by
  unfold ofDeliveries
  cases navigation.filter with
  | error failure => exact allOrNothing_banner _ (.inl rfl)
  | ok filter =>
    dsimp only
    cases client.searchResult _ _ with
    | ok found =>
      cases client.countsResult _ _ with
      | ok counts => exact ⟨nofun, iff_of_false nofun (by simp [ofResults])⟩
      | error failure => exact allOrNothing_banner _ (.inr rfl)
    | error failure =>
      cases client.countsResult _ _ with
      | ok counts => exact allOrNothing_banner _ (.inl rfl)
      | error other => exact allOrNothing_banner _ (.inl rfl)

/-- What two results leave is marked as failed part by part. -/
theorem failed_ofResults (client : Client) (search : Except Failure SearchResponse)
    (counts : Except Failure Counts) :
    ((ofResults client search counts).searchFailed = true ↔ ¬ ∃ found, search = .ok found) ∧
      ((ofResults client search counts).facetsFailed = true ↔ ¬ ∃ found, counts = .ok found) := by
  cases search <;> cases counts <;> simp [ofResults, banner]

end Data

/-- Loading sends the requests of the state and puts together what became of them. -/
theorem load_eq (client : Client) (send : ApiRequest → Delivery) (navigation : Navigation)
    (limit : Nat) :
    load (m := Id) client send navigation limit =
      Data.ofDeliveries client navigation limit ((Data.requests navigation limit).map send) := by
  have sent : ∀ requests : List ApiRequest, requests.mapM (m := Id) send = requests.map send :=
    fun requests => List.mapM_pure
  unfold load
  rw [sent]
  rfl

/-- **Which parts are marked as failed.** With a malformed autonomous system both are. Without one the state
has a filter, and each part is marked exactly if what became of its own request cannot be used. -/
theorem load_marks (client : Client) (send : ApiRequest → Delivery) (navigation : Navigation)
    (limit : Nat) :
    let data := load (m := Id) client send navigation limit
    ((∃ shown ∈ navigation.selections.asns, ∃ failure, Asn.parse shown = .error failure) →
      data.searchFailed = true ∧ data.facetsFailed = true) ∧
    ((∀ shown ∈ navigation.selections.asns, ∃ number, Asn.parse shown = .ok number) →
      ∃ filter, navigation.filter = .ok filter ∧
        (data.searchFailed = true ↔
          ¬ (send (.search filter limit none)).Succeeds SearchResponse.ofDocument?) ∧
        (data.facetsFailed = true ↔ ¬ (send (.counts filter)).Succeeds Counts.ofAnswer?)) := by
  intro data
  have loaded : data = _ := load_eq client send navigation limit
  rw [loaded]
  rcases navigation.filter_cases with ⟨filter, built, valid⟩ | ⟨shown, member, failure, bad, failed⟩
  · refine ⟨fun ⟨shown, member, failure, bad⟩ => ?_, fun _ => ⟨filter, built, ?_⟩⟩
    · obtain ⟨number, good⟩ := valid shown member
      cases bad.symm.trans good
    · have sent : Data.requests navigation limit = [.search filter limit none, .counts filter] := by
        rw [Data.requests, built]
        rfl
      rw [sent, Data.ofDeliveries, built, ← client.result_isOk_iff, ← client.result_isOk_iff]
      exact Data.failed_ofResults client _ _
  · rw [Data.ofDeliveries, failed]
    refine ⟨fun _ => ⟨rfl, rfl⟩, fun valid => ?_⟩
    obtain ⟨number, good⟩ := valid shown member
    cases bad.symm.trans good

end HostDashboard
