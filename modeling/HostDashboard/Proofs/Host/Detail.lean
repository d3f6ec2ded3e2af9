/-
**The detail view loses and repeats nothing.**

The lists of ports and protocols are built by a scan that looks at what it has listed so far. Whatever it has gone
through, the list holds the values met so far, each once, in the order in which they were met first
(`listsOnce_distinct`): a value is put at the end when it is met first, behind all that were met before, and changes
nothing later on.

The line of a service takes the status and the server from one block, the one over TLS if there is one. The server is
the first value of a header whose name is `server` in whatever case; of several such names the one with the smallest
octets counts, as headers are sorted by name (`header?_eq_some_iff`).

`detail_complete` puts both together for every host.
-/

import HostDashboard.Host.Detail
import HostDashboard.Proofs.Dictionary
import HostDashboard.Proofs.Text.Case
import HostDashboard.Proofs.Text.Utf8
import Mathlib.Data.List.Induction

namespace HostDashboard

/-! ### Values in the order in which they occur first -/

/-- A list has the values of some items, each of them once, in the order in which they occur first. A value that no
item has stands behind all others. -/
structure ListsOnce {ι α : Type} [DecidableEq α] (value : ι → α) (items : List ι) (listed : List α) : Prop where
  nodup : listed.Nodup
  mem_iff : ∀ one, one ∈ listed ↔ ∃ item ∈ items, value item = one
  before_iff : ∀ one other, listed.idxOf one < listed.idxOf other ↔
    items.findIdx (value · = one) < items.findIdx (value · = other)

section Distinct

variable {α : Type} [DecidableEq α]

/-- A value that is put at the end stands behind those that were there, if it was not. -/
theorem idxOf_lt_idxOf_concat (values : List α) (value one other : α) :
    (values ++ [value]).idxOf one < (values ++ [value]).idxOf other ↔
      values.idxOf one < values.idxOf other ∨
        (value ∉ values ∧ one = value) ∧ other ∉ values ∧ other ≠ value := by
  have last (one : α) : [value].idxOf one = if value = one then 0 else 1 := by
    simp [List.idxOf_cons]
  rw [List.idxOf_append, List.idxOf_append, last, last]
  -- what is not among the values is looked for behind them, so it matters which of the two are there
  by_cases oneIn : one ∈ values <;> by_cases otherIn : other ∈ values
  · rw [if_pos oneIn, if_pos otherIn]
    exact (or_iff_left fun new => new.2.1 otherIn).symm
  · have before := List.idxOf_lt_length_of_mem oneIn
    rw [if_pos oneIn, if_neg otherIn, List.idxOf_eq_length otherIn]
    exact iff_of_true (by omega) (.inl before)
  · have before := List.idxOf_lt_length_of_mem otherIn
    rw [if_neg oneIn, if_pos otherIn, List.idxOf_eq_length oneIn]
    exact iff_of_false (by omega) (by simp [otherIn, before.le])
  · rw [if_neg oneIn, if_neg otherIn, List.idxOf_eq_length oneIn, List.idxOf_eq_length otherIn]
    split_ifs <;> simp_all [eq_comm]

namespace Host

theorem distinct_concat (values : List α) (value : α) :
    distinct (values ++ [value]) =
      if value ∈ distinct values then distinct values else distinct values ++ [value] :=
  List.foldl_concat appendNew [] value values

theorem mem_distinct {values : List α} {one : α} : one ∈ distinct values ↔ one ∈ values := by
  induction values using List.reverseRecOn with
  | nil => rfl
  | append_singleton values value ih =>
    rw [distinct_concat, List.mem_append, List.mem_singleton, ← ih]
    split
    · next listed =>
      refine (or_iff_left_of_imp ?_).symm
      rintro rfl
      exact listed
    · rw [List.mem_append, List.mem_singleton]

theorem nodup_distinct (values : List α) : (distinct values).Nodup := by
  induction values using List.reverseRecOn with
  | nil => exact List.nodup_nil
  | append_singleton values value ih =>
    rw [distinct_concat]
    split
    · exact ih
    · next new =>
      rw [List.nodup_append_comm]
      exact List.nodup_cons.mpr ⟨new, ih⟩

/-- **The order is that of the first occurrences**, by induction from the last value. It is put behind all others if
it is new, there as here. -/
theorem idxOf_distinct_lt_iff (values : List α) (one other : α) :
    (distinct values).idxOf one < (distinct values).idxOf other ↔ values.idxOf one < values.idxOf other := by
  induction values using List.reverseRecOn with
  | nil => rfl
  | append_singleton values value ih =>
    rw [distinct_concat, idxOf_lt_idxOf_concat values]
    split
    · next listed =>
      rw [ih]
      exact (or_iff_left fun new => new.1.1 (mem_distinct.mp listed)).symm
    · rw [idxOf_lt_idxOf_concat, ih, mem_distinct, mem_distinct]

theorem listsOnce_distinct {ι : Type} (value : ι → α) (items : List ι) :
    ListsOnce value items (distinct (items.map value)) where
  nodup := nodup_distinct _
  mem_iff := fun one => by rw [mem_distinct, List.mem_map]
  before_iff := fun one other => by
    rw [idxOf_distinct_lt_iff, List.idxOf, List.idxOf, List.findIdx_map, List.findIdx_map]
    rfl

end Host

end Distinct

/-! ### The header of a name -/

open Text

/-- The values of a header are those under its name in whatever case, and if it has several such names, under the one
with the smallest octets. -/
def HttpDetails.HasHeader (details : HttpDetails) (name : String) (values : List String) : Prop :=
  ∃ key, details.headers.get? key = some values ∧ SameLetters key.toList name.toList ∧
    ∀ other ∈ details.headers.keys, SameLetters other.toList name.toList →
      Utf8.encode key.toList ≤ Utf8.encode other.toList

namespace Service

variable {service : Service}

theorem sameName_iff {first second : String} :
    sameName first second = true ↔ SameLetters first.toList second.toList := by
  rw [sameName, beq_iff_eq, sameLetters_iff]

/-- **The first header with a name** is the one with the smallest octets. -/
theorem find?_header_eq_some_iff {details : HttpDetails} {name : String} {values : List String} :
    (details.headers.entries.find? fun entry => sameName entry.1 name).map Prod.snd = some values ↔
      details.HasHeader name values := by
  have first (key : String) (found : List String) :=
    @Dictionary.find?_eq_some_iff _ details.headers (sameName · name) key found
  rw [Option.map_eq_some_iff]
  constructor
  · rintro ⟨⟨key, _⟩, found, rfl⟩
    obtain ⟨value, same, least⟩ := (first key _).mp found
    refine ⟨key, value, sameName_iff.mp same, fun other inside alike => ?_⟩
    by_cases equal : other = key
    · rw [equal]
      exact List.le_refl _
    · have below := least other inside (sameName_iff.mpr alike) equal
      exact Utf8.encode_le_encode_iff.mpr (String.lt_asymm below)
  · rintro ⟨key, value, same, least⟩
    refine ⟨(key, values), (first key values).mpr ⟨value, sameName_iff.mpr same, ?_⟩, rfl⟩
    intro other inside alike differs
    have notBelow : ¬ other < key :=
      Utf8.encode_le_encode_iff.mp (least other inside (sameName_iff.mp alike))
    exact String.not_le.mp fun le => differs (String.le_antisymm le (String.not_lt.mp notBelow))

/-- The block that tells of a service over HTTP: the one over TLS if there is one, and else the one without. -/
def Answered (service : Service) (details : HttpDetails) : Prop :=
  service.https = some details ∨ service.https = none ∧ service.http = some details

theorem httpDetails_eq_some_iff {details : HttpDetails} :
    service.httpDetails = some details ↔ service.Answered details := by
  unfold httpDetails Answered
  cases service.https <;> simp

theorem header?_eq_some_iff {name : String} {values : List String} :
    service.header? name = some values ↔
      ∃ details, service.Answered details ∧ details.HasHeader name values := by
  rw [header?, Option.bind_eq_some_iff]
  simp only [find?_header_eq_some_iff, httpDetails_eq_some_iff]

theorem header?_eq_none_iff {name : String} :
    service.header? name = none ↔
      ∀ details, service.Answered details →
        ∀ key ∈ details.headers.keys, ¬ SameLetters key.toList name.toList := by
  rw [header?, Option.bind_eq_none_iff]
  refine forall_congr' fun details => ?_
  rw [httpDetails_eq_some_iff, Option.map_eq_none_iff, List.find?_eq_none]
  simp only [Dictionary.keys, List.forall_mem_map, sameName_iff]

theorem head_header?_eq_some_iff {name value : String} :
    (service.header? name).bind List.head? = some value ↔
      ∃ details, service.Answered details ∧ ∃ others, details.HasHeader name (value :: others) := by
  rw [Option.bind_eq_some_iff]
  simp only [header?_eq_some_iff, List.head?_eq_some_iff]
  constructor
  · rintro ⟨_, ⟨details, answered, has⟩, others, rfl⟩
    exact ⟨details, answered, others, has⟩
  · rintro ⟨details, answered, others, has⟩
    exact ⟨_, ⟨details, answered, has⟩, others, rfl⟩

/-- There is no first value if there is no header, or one without values. -/
theorem head_header?_eq_none_iff {name : String} :
    (service.header? name).bind List.head? = none ↔
      ∀ details, service.Answered details →
        (∀ key ∈ details.headers.keys, ¬ SameLetters key.toList name.toList) ∨
          details.HasHeader name [] := by
  cases found : service.header? name with
  | none =>
    exact iff_of_true rfl fun details answered => .inl (header?_eq_none_iff.mp found details answered)
  | some values =>
    obtain ⟨details, answered, has⟩ := header?_eq_some_iff.mp found
    show values.head? = none ↔ _
    rw [List.head?_eq_none_iff]
    constructor
    · rintro rfl other answeredToo
      have block := httpDetails_eq_some_iff.mpr answeredToo
      rw [httpDetails_eq_some_iff.mpr answered] at block
      exact .inr (Option.some.inj block ▸ has)
    · intro each
      rcases each details answered with nowhere | without
      · obtain ⟨key, value, same, _⟩ := has
        exact absurd same (nowhere key (Dictionary.mem_keys_iff.mpr ⟨values, value⟩))
      · have again := header?_eq_some_iff.mpr ⟨details, answered, without⟩
        rw [found] at again
        exact Option.some.inj again

end Service

/-! ### The detail view -/

/-- What the line of a service tells. -/
structure Service.Summarises (service : Service) (summary : ServiceSummary) : Prop where
  port : summary.port = service.port
  protocol : summary.protocol = service.protocol
  transport : summary.transport = service.transport
  tls : summary.tls = service.tls
  httpStatus_iff : ∀ status, summary.httpStatus = some status ↔
    ∃ details, service.Answered details ∧ details.statusCode = status
  server_iff : ∀ server, summary.server = some server ↔
    ∃ details, service.Answered details ∧ ∃ others, details.HasHeader "server" (server :: others)
  server_none_iff : summary.server = none ↔
    ∀ details, service.Answered details →
      (∀ key ∈ details.headers.keys, ¬ SameLetters key.toList "server".toList) ∨
        details.HasHeader "server" []
  banner : summary.banner = service.ssh.map SshDetails.banner

theorem Service.summarises_summary (service : Service) : service.Summarises service.summary where
  port := rfl
  protocol := rfl
  transport := rfl
  tls := rfl
  httpStatus_iff := fun status => by
    show service.httpDetails.map HttpDetails.statusCode = some status ↔ _
    simp only [Option.map_eq_some_iff, httpDetails_eq_some_iff]
  server_iff := fun _ => head_header?_eq_some_iff
  server_none_iff := head_header?_eq_none_iff
  banner := rfl

/-- **The detail view loses and repeats nothing.** It holds the host, the ports of its services and their protocols,
each of these once and in the order in which they occur first, and one line for each service, in order. The status
and the server of a line are those of one block, the one over TLS if there is one and else the one without. The server
is the first value of the header whose name is `server` in whatever case, and of several such names the one with the
smallest octets; there is none if there is no such header, or if it has no values. -/
theorem Host.detail_complete (host : Host) :
    ListsOnce Service.port host.services host.openPorts ∧
      ListsOnce Service.protocol host.services host.protocols ∧
      host.detail.host = host ∧
      host.detail.openPorts = host.openPorts ∧
      host.detail.protocols = host.protocols ∧
      List.Forall₂ Service.Summarises host.services host.detail.services := by
  refine ⟨listsOnce_distinct _ _, listsOnce_distinct _ _, rfl, rfl, rfl, ?_⟩
  refine List.forall₂_map_right_iff.mpr (List.forall₂_same.mpr fun service _ => ?_)
  exact service.summarises_summary

/-- The capital comes first, and has no values. -/
example :
    let details : HttpDetails := ⟨"200 OK", 200, .ofList [("server", ["nginx"]), ("Server", [])]⟩
    (Service.summary ⟨none, 80, "http", "tcp", false, default, none, some details, none⟩).server = none := by
  decide +kernel

end HostDashboard
