/-
**Which host a lookup reaches.**

A lookup sends one request, and its link is that of the base with the address as a segment. The escapes keep the
address within its segment, but it can be lost before: dots alone are passed over, and so are tabs and line breaks
inside the address.

* `reached` are the segments below the base that a lookup names, as they are read on the server
  (`Client.link_host_path`); links tell them apart (`Client.target_host_eq_iff`), so whole addresses have requests
  of their own (`Client.target_host_injOn`);
* `requests_reach`: exactly the whole addresses are looked for as themselves, unless the path of the base is made
  of two slashes; a lookup is a search exactly if its address is the word without tabs and line breaks, and it is
  never a request for counts;
* `tab_reaches_another`: an address with a tab is looked for as another host.
-/

import HostDashboard.Host.Detail
import HostDashboard.Proofs.Registry.Wire
import HostDashboard.Proofs.Url.Segments

namespace HostDashboard

namespace Url

/-! ### The end of the base -/

/-- Segments without an empty one at the end. -/
def withoutLastEmpty (path : List (List Char)) : List (List Char) :=
  if path.getLast? = some [] then path.dropLast else path

theorem withoutLastEmpty_eq_iff {path : List (List Char)} :
    withoutLastEmpty path = [[]] ↔ path = [[], []] := by
  unfold withoutLastEmpty
  by_cases last : path.getLast? = some []
  · rw [if_pos last]
    have whole : path.dropLast ++ [[]] = path := List.dropLast_append_getLast? [] last
    exact ⟨fun rest => by rw [← whole, rest]; rfl, fun two => by rw [two]; rfl⟩
  · rw [if_neg last]
    exact iff_of_false (fun one => last (by rw [one]; rfl)) fun two => last (by rw [two]; rfl)

/-- One empty segment alone is none. -/
theorem openEnded_eq (path : List (List Char)) :
    openEnded path = if withoutLastEmpty path = [[]] then [] else withoutLastEmpty path := by
  unfold openEnded
  by_cases long : 1 < path.length
  · have same : (if 1 < path.length ∧ path.getLast? = some [] then path.dropLast else path) =
        withoutLastEmpty path := by
      simp only [withoutLastEmpty, long, true_and]
    simp only [same]
  · rcases path with _ | ⟨first, _ | ⟨second, rest⟩⟩
    · rfl
    · cases first <;> simp [withoutLastEmpty]
    · exact absurd (by simp) long

/-- **The base loses an empty segment at its end**, and with two empty ones it loses both. -/
theorem openEnded_eq_iff (path : List (List Char)) :
    openEnded path = withoutLastEmpty path ↔ path ≠ [[], []] := by
  rw [openEnded_eq, ← not_iff_not, not_not, ← withoutLastEmpty_eq_iff]
  by_cases one : withoutLastEmpty path = [[]]
  · rw [if_pos one, one]
    exact iff_of_true (by decide) rfl
  · rw [if_neg one]
    exact iff_of_false (not_not.mpr rfl) one

/-! ### The words of the endpoints -/

def endpointWords : List (List Char) :=
  ["api".toList, "hosts".toList, "search".toList, "facets".toList]

theorem written_word {word : List Char} (member : word ∈ endpointWords) (special : Bool) :
    written special word = word := by
  have each : ∀ special, ∀ word ∈ endpointWords, written special word = word := by decide
  exact each special word member

theorem appendSegment_word {word : List Char} (member : word ∈ endpointWords) (file special : Bool)
    (path : List (List Char)) : appendSegment file special path word = path ++ [word] := by
  have whole : ∀ word ∈ endpointWords, (¬(word = ['.'] ∨ word = ['.', '.']) ∧ kept word = word) ∧
      (isDoubleDot word = false ∧ isSingleDot word = false) ∧ isDrive word = false := by decide
  obtain ⟨⟨notDots, all⟩, ⟨double, single⟩, noDrive⟩ := whole word member
  rw [appendSegment, if_neg notDots]
  show addSegment file path (written special (kept word)) true = _
  rw [all, written_word member]
  exact addSegment_of_notDots double single (.inr noDrive)

theorem foldl_appendSegment_words (file special : Bool) (path : List (List Char))
    {words : List (List Char)} (known : ∀ word ∈ words, word ∈ endpointWords) :
    words.foldl (appendSegment file special) path = path ++ words := by
  induction words generalizing path with
  | nil => exact (List.append_nil path).symm
  | cons word rest ih =>
    obtain ⟨first, others⟩ := List.forall_mem_cons.mp known
    rw [List.foldl_cons, appendSegment_word first, ih _ others, List.append_assoc,
      List.singleton_append]

theorem map_written_words {words : List (List Char)} (known : ∀ word ∈ words, word ∈ endpointWords)
    (special : Bool) : words.map (written special) = words :=
  (List.map_congr_left fun word member => written_word (known word member) special).trans
    (List.map_id words)

end Url

/-! ### Paths of requests -/

/-- The segments below the base that a lookup names, as they are read on the server. -/
def HostLookup.reached (ip : List Char) : List (List Char) :=
  if ip = ['.'] ∨ ip = ['.', '.'] then ["api".toList, "hosts".toList]
  else if Url.kept ip = ['.', '.'] then ["api".toList, []]
  else if Url.kept ip = ['.'] then ["api".toList, "hosts".toList, []]
  else ["api".toList, "hosts".toList, Url.kept ip]

theorem HostLookup.reached_eq_cons (ip : List Char) : reached ip = "api".toList :: (reached ip).tail := by
  unfold reached
  split_ifs <;> rfl

namespace Client

open HostLookup (reached)

theorem ofBaseUrl_path {source : String} {client : Client} (accepted : ofBaseUrl source = .ok client) :
    ∃ base, client.base.path = .segments base := by
  unfold ofBaseUrl at accepted
  split at accepted
  · cases accepted
  · next url read =>
    split at accepted
    · next base =>
      cases accepted
      unfold Url.canBeBase at base
      split at base
      · next segments path => exact ⟨segments, path⟩
      · cases base
    · cases accepted

section

variable {client : Client} {base : List (List Char)}

/-- The schemes with a host escape one character more. -/
def special (client : Client) : Bool := Url.isSpecialScheme client.base.scheme

theorem link_path (path : client.base.path = .segments base) (request : ApiRequest) :
    (client.link request).path = .segments (request.segments.foldl
      (Url.appendSegment (client.base.scheme == "file".toList) client.special) (Url.openEnded base)) := by
  show (client.base.appendPath request.segments).path = _
  unfold Url.appendPath
  rw [path]
  rfl

/-- **The path of a lookup**: the base and what is reached below it. -/
theorem link_host_path (path : client.base.path = .segments base) (ip : String) :
    (client.link (.host ip)).path =
      .segments (Url.openEnded base ++ (reached ip.toList).map (Url.written client.special)) := by
  have words : ∀ word ∈ ["api".toList, "hosts".toList], word ∈ Url.endpointWords := by decide
  have api : Url.written client.special "api".toList = "api".toList := Url.written_word (by decide) _
  have hosts : Url.written client.special "hosts".toList = "hosts".toList :=
    Url.written_word (by decide) _
  have segments : (ApiRequest.host ip).segments = ["api".toList, "hosts".toList] ++ [ip.toList] := rfl
  rw [link_path path, segments, List.foldl_append, Url.foldl_appendSegment_words _ _ _ words,
    List.foldl_cons, List.foldl_nil, Url.appendSegment_eq, reached]
  congr 2
  simp only [apply_ite (List.map (Url.written client.special)), List.map_cons, List.map_nil, api, hosts]
  rfl

/-- The path of a request without an address. -/
theorem link_words_path (path : client.base.path = .segments base) (request : ApiRequest)
    (words : ∀ segment ∈ request.segments, segment ∈ Url.endpointWords) :
    (client.link request).path =
      .segments (Url.openEnded base ++ request.segments.map (Url.written client.special)) := by
  rw [link_path path, Url.foldl_appendSegment_words _ _ _ words, Url.map_written_words words]

/-- A lookup has the path of another request exactly if it reaches its segments. -/
theorem link_host_path_eq_iff (path : client.base.path = .segments base) (request : ApiRequest)
    (words : ∀ segment ∈ request.segments, segment ∈ Url.endpointWords) (ip : String) :
    (client.link (.host ip)).path = (client.link request).path ↔ reached ip.toList = request.segments := by
  rw [link_host_path path, link_words_path path request words, Url.Path.segments.injEq, List.append_cancel_left_eq]
  exact (List.map_injective_iff.mpr (Url.written_injective client.special)).eq_iff

/-! ### Targets -/

theorem link_host (client : Client) (request : ApiRequest) :
    (client.link request).host = client.base.host := by
  show (client.base.appendPath request.segments).host = _
  unfold Url.appendPath
  split <;> rfl

/-- A lookup has the query of the base. -/
theorem link_host_query (client : Client) (ip other : String) :
    (client.link (.host ip)).query = (client.link (.host other)).query := by
  have query (request : ApiRequest) :
      (client.base.appendPath request.segments).query = client.base.query := by
    unfold Url.appendPath
    split <;> rfl
  show ((client.base.appendPath (ApiRequest.host ip).segments).appendQuery []).query =
    ((client.base.appendPath (ApiRequest.host other).segments).appendQuery []).query
  simp only [Url.appendQuery, query]

/-- **The targets of lookups tell apart what they reach.** -/
theorem target_host_eq_iff (path : client.base.path = .segments base) (ip other : String) :
    client.target (.host ip) = client.target (.host other) ↔
      reached ip.toList = reached other.toList := by
  have ofPaths : client.target (.host ip) = client.target (.host other) ↔
      (client.link (.host ip)).writePath = (client.link (.host other)).writePath := by
    unfold target Url.target
    rw [String.ofList_inj, link_host_query client ip other, List.append_cancel_right_eq]
  have api : Url.written client.special "api".toList = "api".toList := Url.written_word (by decide) _
  have linked (ip : String) : (client.link (.host ip)).path = .segments (Url.openEnded base ++
      "api".toList :: (reached ip.toList).tail.map (Url.written client.special)) := by
    rw [link_host_path path, HostLookup.reached_eq_cons, List.map_cons, api]
    rfl
  rw [ofPaths]
  refine ⟨fun same => ?_, fun same => ?_⟩
  · have tails := Url.writePath_tail_injective ((link_host _ _).trans (link_host _ _).symm)
      (linked ip) (linked other) (by decide) (Url.notMem_slash_map_written _ _)
      (Url.notMem_slash_map_written _ _) same
    rw [HostLookup.reached_eq_cons ip.toList, HostLookup.reached_eq_cons other.toList,
      List.map_injective_iff.mpr (Url.written_injective client.special) tails]
  · unfold Url.writePath
    rw [linked, linked, same, link_host, link_host]

end

end Client

/-! ### Whole addresses -/

namespace HostLookup

/-- An address that a link takes as it is. -/
def IsWhole (ip : List Char) : Prop :=
  ('\t' ∉ ip ∧ '\n' ∉ ip ∧ '\r' ∉ ip) ∧ ip ≠ ['.'] ∧ ip ≠ ['.', '.']

instance (ip : List Char) : Decidable (IsWhole ip) :=
  inferInstanceAs (Decidable ((_ ∧ _ ∧ _) ∧ _ ∧ _))

theorem reached_of_isWhole {ip : List Char} (whole : IsWhole ip) :
    reached ip = ["api".toList, "hosts".toList, ip] := by
  have all : Url.kept ip = ip := Url.kept_eq_self_iff.mpr whole.1
  rw [reached, all, if_neg (not_or.mpr whole.2), if_neg whole.2.2, if_neg whole.2.1]

/-- **Only a whole address is reached under its own name.** -/
theorem reached_eq_own_iff (ip : List Char) :
    reached ip = ["api".toList, "hosts".toList, ip] ↔ IsWhole ip := by
  refine ⟨fun own => ?_, reached_of_isWhole⟩
  unfold reached at own
  split at own
  · cases own
  · next notDots =>
    split at own
    · cases own
    · split at own
      · next single =>
        have empty : ip = [] := (List.cons.inj (List.cons.inj (List.cons.inj own).2).2).1.symm
        rw [empty] at single
        cases single
      · have all : Url.kept ip = ip := (List.cons.inj (List.cons.inj (List.cons.inj own).2).2).1
        exact ⟨Url.kept_eq_self_iff.mp all, not_or.mp notDots⟩

theorem reached_eq_search_iff (ip : List Char) :
    reached ip = ["api".toList, "hosts".toList, "search".toList] ↔ Url.kept ip = "search".toList := by
  unfold reached
  split
  · next dots =>
    refine iff_of_false (by decide) ?_
    rcases dots with rfl | rfl <;> decide
  · split
    · next double => exact iff_of_false (by decide) (by rw [double]; decide)
    · split
      · next single => exact iff_of_false (by decide) (by rw [single]; decide)
      · simp only [List.cons.injEq, true_and, and_true]

theorem reached_ne_counts (ip : List Char) : reached ip ≠ ["api".toList, "facets".toList] := by
  unfold reached
  split_ifs
  · decide
  · decide
  · decide
  · exact fun same => absurd (congrArg List.length same) (by simp)

/-- The requests that a lookup sends, in order. -/
def requests (client : Client) (answer : ApiRequest → Delivery) (address : String) : List ApiRequest :=
  ((lookupHost client (Wire.noted answer) address).run []).2

theorem requests_eq (client : Client) (answer : ApiRequest → Delivery) (address : String) :
    requests client answer address = (request? address).toList := by
  unfold requests lookupHost
  cases request? address <;> rfl

end HostLookup

namespace Client

open HostLookup (reached IsWhole)

/-- The path of a lookup is the base, without an empty segment at its end, and the hosts with one more segment
that is read as the address. -/
def NamesHost (client : Client) (ip : String) : Prop :=
  ∃ base segment, client.base.path = .segments base ∧
    (client.link (.host ip)).path =
      .segments (Url.withoutLastEmpty base ++ ["api".toList, "hosts".toList, segment]) ∧
    Text.Percent.decode segment = ip.toList

section

variable {client : Client} {base : List (List Char)}

theorem namesHost_iff (path : client.base.path = .segments base) (ip : String) :
    client.NamesHost ip ↔ base ≠ [[], []] ∧ IsWhole ip.toList := by
  have linked := link_host_path path ip
  constructor
  · rintro ⟨base', segment, path', own, read⟩
    cases Url.Path.segments.inj (path.symm.trans path')
    rw [own] at linked
    have same := Url.Path.segments.inj linked
    have open' : base ≠ [[], []] := by
      -- both empty segments are lost, and the first word of a lookup is not empty
      rintro rfl
      rw [HostLookup.reached_eq_cons, List.map_cons, Url.written_word (by decide)] at same
      exact absurd (List.cons.inj same).1 (by decide)
    refine ⟨open', (HostLookup.reached_eq_own_iff _).mp ?_⟩
    rw [(Url.openEnded_eq_iff base).mpr open', List.append_cancel_left_eq] at same
    calc reached ip.toList
        = ((reached ip.toList).map (Url.written client.special)).map Text.Percent.decode := by
          rw [List.map_map]
          exact (List.map_id'' (Url.decode_written client.special) _).symm
      _ = ["api".toList, "hosts".toList, segment].map Text.Percent.decode := by rw [same]
      _ = ["api".toList, "hosts".toList, ip.toList] := by
          rw [List.map_cons, List.map_cons, List.map_singleton, read]
          rfl
  · rintro ⟨open', whole⟩
    refine ⟨base, Url.written client.special ip.toList, path, ?_, Url.decode_written _ _⟩
    rw [linked, (Url.openEnded_eq_iff base).mpr open', HostLookup.reached_of_isWhole whole, List.map_cons,
      List.map_cons, List.map_singleton, Url.written_word (by decide), Url.written_word (by decide)]

/-- **Whole addresses have requests of their own.** -/
theorem target_host_injOn (path : client.base.path = .segments base) {ip other : String}
    (whole : IsWhole ip.toList) (whole' : IsWhole other.toList)
    (same : client.target (.host ip) = client.target (.host other)) : ip = other := by
  have reached := (target_host_eq_iff path ip other).mp same
  rw [HostLookup.reached_of_isWhole whole, HostLookup.reached_of_isWhole whole'] at reached
  exact String.toList_inj.mp (List.cons.inj (List.cons.inj (List.cons.inj reached).2).2).1

end

end Client

namespace HostLookup

/-- **What a lookup reaches.** An address that is not blank is asked for once, without its blanks. The path of the
request names it as a host exactly if it is whole and the path of the base is not made of two slashes. Two lookups
have the same target exactly if they reach the same segments, and no two of whole addresses have. A lookup has the
path of a search exactly if the address is its word without tabs and line breaks, and never that of a request for
counts. -/
theorem requests_reach {source : String} {client : Client}
    (accepted : Client.ofBaseUrl source = .ok client) (answer : ApiRequest → Delivery)
    {address : String} (notBlank : Text.isBlankText address = false) :
    let ip := Text.trimmed address
    requests client answer address = [.host ip] ∧
      (client.NamesHost ip ↔ client.base.path ≠ .segments [[], []] ∧ IsWhole ip.toList) ∧
      (∀ other : String, client.target (.host ip) = client.target (.host other) ↔
        reached ip.toList = reached other.toList) ∧
      (∀ other : String, IsWhole ip.toList → IsWhole other.toList →
        client.target (.host ip) = client.target (.host other) → ip = other) ∧
      (∀ filter limit pageToken,
        (client.link (.host ip)).path = (client.link (.search filter limit pageToken)).path ↔
          Url.kept ip.toList = "search".toList) ∧
      ∀ filter, (client.link (.host ip)).path ≠ (client.link (.counts filter)).path := by
  intro ip
  obtain ⟨base, path⟩ := Client.ofBaseUrl_path accepted
  refine ⟨?_, ?_, Client.target_host_eq_iff path ip, fun _ => Client.target_host_injOn path,
    fun filter limit pageToken => ?_, fun filter => ?_⟩
  · rw [requests_eq, request?, notBlank]
    rfl
  · rw [Client.namesHost_iff path, path, Ne, Ne, Url.Path.segments.injEq]
  · have words : ∀ segment ∈ ["api".toList, "hosts".toList, "search".toList],
        segment ∈ Url.endpointWords := by decide
    exact (Client.link_host_path_eq_iff path (.search ..) words ip).trans (reached_eq_search_iff ip.toList)
  · have words : ∀ segment ∈ ["api".toList, "facets".toList], segment ∈ Url.endpointWords := by decide
    exact fun same => reached_ne_counts _ ((Client.link_host_path_eq_iff path (.counts _) words ip).mp same)

/-- A client of a server on the same machine. -/
def loopback : Client :=
  ⟨{ scheme := "http".toList, host := some "127.0.0.1".toList, port := some 40000,
     path := .segments [[]] }⟩

theorem ofBaseUrl_loopback : Client.ofBaseUrl "http://127.0.0.1:40000" = .ok loopback := by
  have read : Url.read (Client.withoutSlashes "http://127.0.0.1:40000".toList) = .ok loopback.base := by
    decide +kernel
  rw [Client.ofBaseUrl, read]
  rfl

/-- Slashes and dots within an address do no harm. -/
theorem requests_reach_escaped :
    requests loopback (fun _ => .answered 404 "") " ../facets?\n" = [.host "../facets?"] ∧
      loopback.NamesHost "../facets?" := by
  have trimmed : Text.trimmed " ../facets?\n" = "../facets?" := by decide +kernel
  have reach := @requests_reach _ _ ofBaseUrl_loopback (fun _ => .answered 404 "") " ../facets?\n"
    (by decide +kernel)
  rw [trimmed] at reach
  exact ⟨reach.1, reach.2.1.mpr ⟨by decide, by decide⟩⟩

/-- **A tab leads to another host**, dots alone to none and an address with a line break to the search. -/
theorem tab_reaches_another :
    loopback.target (.host "10.0.0.1\t0") = "/api/hosts/10.0.0.10" ∧
      loopback.target (.host "10.0.0.10") = "/api/hosts/10.0.0.10" ∧
      loopback.target (.host "..") = "/api/hosts" ∧
      loopback.target (.host "sea\nrch") = "/api/hosts/search" ∧
      ¬ ∀ (source : String) (client : Client) (address other : String),
        Client.ofBaseUrl source = .ok client → Text.isBlankText address = false →
          client.NamesHost (Text.trimmed address) ∧
            (client.target (.host (Text.trimmed address)) = client.target (.host (Text.trimmed other)) →
              Text.trimmed address = Text.trimmed other) := by
  have tab : loopback.target (.host "10.0.0.1\t0") = "/api/hosts/10.0.0.10" := by decide +kernel
  have plain : loopback.target (.host "10.0.0.10") = "/api/hosts/10.0.0.10" := by decide +kernel
  refine ⟨tab, plain, by decide +kernel, by decide +kernel, fun own => ?_⟩
  have trimmed : Text.trimmed "10.0.0.1\t0" = "10.0.0.1\t0" := by decide +kernel
  have trimmed' : Text.trimmed "10.0.0.10" = "10.0.0.10" := by decide +kernel
  have apart := (own _ _ "10.0.0.1\t0" "10.0.0.10" ofBaseUrl_loopback (by decide +kernel)).2
  rw [trimmed, trimmed', tab, plain] at apart
  exact absurd (apart rfl) (by decide)

end HostLookup

end HostDashboard
