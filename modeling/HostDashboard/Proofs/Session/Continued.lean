/-
**Loading more never moves the reader.**

A batch is put behind the hosts that are there, and the pager is told of more items. A page that was there is
still there, so the pager stays on it (`InRange.current_sync_grown`), also on page one of nothing. The items
before the end of a page are the same as before: what is shown can only grow at its end (`InRange.slice_grown`), a
full page stays as it is (`InRange.slice_grown_of_full`), and all pages before the current one are full.

* `more_keeps_place` says this of every session that can be reached and every batch that it takes up, also an empty
  one, with all that a batch leaves alone.
-/

import HostDashboard.Proofs.Pages.Partition
import HostDashboard.Proofs.Session.Coherent
import HostDashboard.Proofs.Session.Provenance

namespace HostDashboard

namespace Pager

theorem total_le_length_append {pager : Pager} {α : Type} {items : List α}
    (length : items.length = pager.total) (more : List α) : pager.total ≤ (items ++ more).length := by
  rw [List.length_append, length]
  exact Nat.le_add_right _ _

theorem pageCount_sync_grown {pager : Pager} {total : Nat} (grown : pager.total ≤ total) :
    pager.pageCount ≤ (pager.sync total).pageCount := by
  have more : pager.total + pager.size - 1 ≤ total + pager.size - 1 := by omega
  rw [pageCount_sync]
  exact Nat.div_le_div_right more

namespace InRange

variable {pager : Pager} (inRange : pager.InRange)

include inRange

/-- **With more items the pager stays where it is.** -/
theorem current_sync_grown {total : Nat} (grown : pager.total ≤ total) :
    (pager.sync total).current = pager.current := by
  rw [inRange.current_sync_eq_iff]
  exact inRange.current_le.trans (max_le_max_left 1 (pageCount_sync_grown grown))

theorem length_slice_le {α : Type} (items : List α) : (pager.slice items).length ≤ pager.size := by
  have := mul_page inRange.one_le pager.size
  rw [inRange.slice_eq, List.length_drop, List.length_take]
  omega

section Items

variable {α : Type} {items : List α} (length : items.length = pager.total) (more : List α)

include length

/-- **What a page shows can only grow at its end.** -/
theorem slice_grown :
    pager.slice items <+: (pager.sync (items ++ more).length).slice (items ++ more) := by
  have grown := total_le_length_append length more
  have synced := inRange.sync (items ++ more).length
  -- the page begins where it began, and up to its end the longer list has more of the same
  rw [inRange.slice_eq_drop_take length, synced.slice_eq_drop_take (total_sync _ _).symm, size_sync,
    inRange.current_sync_grown grown, List.take_append, List.drop_append]
  exact List.prefix_append _ _

/-- A full page stays as it is. -/
theorem slice_grown_of_full (full : (pager.slice items).length = pager.size) :
    (pager.sync (items ++ more).length).slice (items ++ more) = pager.slice items := by
  refine ((inRange.slice_grown length more).eq_of_length_le ?_).symm
  rw [full, ← size_sync pager (items ++ more).length]
  exact (inRange.sync _).length_slice_le _

/-- **The pages before the current one stay as they are**, since they are full. -/
theorem slice_goTo_grown {number : Nat} (one_le : 1 ≤ number) (number_lt : number < pager.current) :
    ((pager.sync (items ++ more).length).goTo number).slice (items ++ more) =
      (pager.goTo number).slice items := by
  have there : number < pager.pageCount := by
    have := inRange.current_le
    omega
  have inside : number * pager.size < items.length := by
    rw [length]
    exact (lt_pageCount_iff inRange.positive number).mp there
  have grown := total_le_length_append length more
  have still := there.le.trans (pageCount_sync_grown grown)
  rw [(inRange.sync _).slice_goTo (total_sync _ _).symm one_le still, size_sync,
    inRange.slice_goTo length one_le there.le, List.take_append_of_le_length inside.le]

end Items

end InRange

end Pager

namespace Session

/-- **Loading more never moves the reader.** After any steps from any state on, a batch under the ticket in flight
is appended, be it empty or not:

* the current page keeps its number, what it shows can only grow at its end, and does not change at all if ten
  hosts were on it already;
* every page before it shows the hosts that it showed, and there are no fewer pages;
* the state in the link, the sidebar, the counts, the generation and the banner stay as they are. -/
theorem more_keeps_place (start : Navigation) (steps : List Step) (ticket : MoreTicket)
    (hosts : List Host) (nextPageToken : Option String) :
    let session := (openAt start).run steps
    let taken := session.completeMore ticket (.ok (hosts, nextPageToken))
    taken.2 = true →
      taken.1.view.results.page = session.view.results.page ∧
      session.view.results.hosts <+: taken.1.view.results.hosts ∧
      (session.view.results.hosts.length = 10 →
        taken.1.view.results.hosts = session.view.results.hosts) ∧
      (∀ number : Nat, 1 ≤ number → number < session.view.results.page →
        (taken.1.goTo number).view.results.hosts = (session.goTo number).view.results.hosts) ∧
      session.view.results.pageCount ≤ taken.1.view.results.pageCount ∧
      taken.1.navigation = session.navigation ∧
      taken.1.panel = session.panel ∧
      taken.1.data.counts = session.data.counts ∧ taken.1.view.facets = session.view.facets ∧
      taken.1.status.facets = session.status.facets ∧
      taken.1.generation = session.generation ∧
      taken.1.view.error = session.view.error := by
  intro session taken accepted
  have coherent : session.Coherent := (coherent_openAt start).run steps
  have size : session.pager.size = 10 := size_run (openAt start) steps
  have length := coherent.total.symm
  have grown := Pager.total_le_length_append length hosts
  obtain ⟨current, inFlight⟩ := (session.completeMore_taken_iff ticket _).mp accepted
  have result : taken = _ := session.completeMore_appended current inFlight hosts nextPageToken
  rw [result]
  refine ⟨coherent.inRange.current_sync_grown grown, coherent.inRange.slice_grown length hosts,
    fun full => ?_, fun number => coherent.inRange.slice_goTo_grown length hosts,
    Pager.pageCount_sync_grown grown, rfl, rfl, rfl, rfl, rfl, rfl, rfl⟩
  exact coherent.inRange.slice_grown_of_full length hosts (full.trans size.symm)

/-- Twelve hosts are there, the reader is on the second page of them, and more is asked for. -/
def secondPageRun : List Step :=
  [.beginRefresh,
    .completeRefresh ⟨1, {}⟩ { hosts := List.replicate 12 (.plain "x"), nextPageToken := some "t" },
    .edit (.goTo 2), .beginMore]

theorem more_keeps_place_second :
    let session := (openAt {}).run secondPageRun
    let taken := session.completeMore ⟨1, {}, "t"⟩ (.ok ([.plain "y"], none))
    taken.2 = true ∧ session.view.results.page = 2 ∧ taken.1.view.results.page = 2 ∧
      session.view.results.hosts = [.plain "x", .plain "x"] ∧
      [.plain "x", .plain "x"] <+: taken.1.view.results.hosts ∧
      (taken.1.goTo (1 : Nat)).view.results.hosts = List.replicate 10 (.plain "x") := by
  intro session taken
  have accepted : taken.2 = true := by decide
  have shown : session.view.results.hosts = [.plain "x", .plain "x"] := by decide
  obtain ⟨page, grown, _, earlier, _⟩ :=
    more_keeps_place {} secondPageRun ⟨1, {}, "t"⟩ [.plain "y"] none accepted
  refine ⟨accepted, rfl, page, shown, shown ▸ grown, (earlier 1 (by decide) (by decide)).trans ?_⟩
  decide

end Session

end HostDashboard
