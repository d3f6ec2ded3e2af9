/-
**The current page.**

A pager always stands on one of its pages, or on page one when there is no item. Everything that is shown
of a page follows from that, through one equivalence: there are more than `n` pages exactly if there are
more than `n` times a page of items (`lt_pageCount_iff`).

* `InRange` is kept by `sync`, `goTo` and `reset`;
* `InRange.slice_eq`: the slice begins after the pages before and ends after this page, or with the last
  item. It is empty only if there is no item (`InRange.eq_nil_of_slice`);
* `hasNext_iff`: there is a next page exactly if an item is left behind the slice;
* `InRange.mem_strip`: the current page is in the strip unless the strip is empty.
-/

import HostDashboard.Pages

namespace HostDashboard

/-! ### The strip of page numbers -/

theorem mem_pageRun {first count number : Nat} :
    .page number ∈ pageRun first count ↔ first ≤ number ∧ number < first + count := by
  unfold pageRun
  rw [List.mem_map]
  constructor
  · rintro ⟨other, inside, same⟩
    cases same
    exact List.mem_range'_1.mp inside
  · exact fun bounds => ⟨number, List.mem_range'_1.mpr bounds, rfl⟩

/-- **Each of the four strips has the current page.** -/
theorem mem_pageStrip {current total : Nat} (one_le : 1 ≤ current) (current_le : current ≤ total) :
    .page current ∈ pageStrip current total := by
  unfold pageStrip fullStrip
  split
  · exact mem_pageRun.mpr ⟨one_le, by omega⟩
  · split
    · exact List.mem_append_left _ (mem_pageRun.mpr ⟨one_le, by omega⟩)
    · split
      · exact List.mem_append_right _ (mem_pageRun.mpr ⟨by omega, by omega⟩)
      · refine List.mem_append_left _ (List.mem_append_right _ (mem_pageRun.mpr ⟨?_, ?_⟩)) <;> omega

namespace Pager

@[simp] theorem total_sync (pager : Pager) (total : Nat) : (pager.sync total).total = total := by
  unfold sync
  simp only
  split <;> rfl

@[simp] theorem size_sync (pager : Pager) (total : Nat) : (pager.sync total).size = pager.size := by
  unfold sync
  dsimp only
  split <;> rfl

/-- The items up to a page are those before it and a page more. -/
theorem mul_page {number : Nat} (one_le : 1 ≤ number) (size : Nat) :
    number * size = (number - 1) * size + size := by
  rw [← Nat.succ_mul, Nat.succ_eq_add_one, Nat.sub_add_cancel one_le]

/-- **There are more than `n` pages exactly if `n` pages do not hold all items.** -/
theorem lt_pageCount_iff {pager : Pager} (positive : 0 < pager.size) (n : Nat) :
    n < pager.pageCount ↔ n * pager.size < pager.total := by
  unfold pageCount
  rw [Nat.lt_iff_add_one_le, Nat.le_div_iff_mul_le positive, Nat.succ_mul]
  omega

/-- **There is a next page exactly if an item is left behind this one.** -/
theorem hasNext_iff {pager : Pager} (positive : 0 < pager.size) {α : Type} {items : List α}
    (length : items.length = pager.total) :
    pager.hasNext = true ↔
      items.drop (min (pager.current * pager.size) pager.total) ≠ [] := by
  unfold hasNext
  rw [decide_eq_true_eq, lt_pageCount_iff positive, Ne, List.drop_eq_nil_iff, length]
  omega

/-- The pager stands on one of its pages, or on page one when there is none. -/
structure InRange (pager : Pager) : Prop where
  positive : 0 < pager.size
  one_le : 1 ≤ pager.current
  current_le : pager.current ≤ max 1 pager.pageCount

variable {pager : Pager}

theorem inRange_default : InRange {} := ⟨by decide, by decide, by decide⟩

namespace InRange

variable (inRange : pager.InRange)

include inRange

/-! ### Every move keeps it -/

theorem reset : pager.reset.InRange :=
  ⟨inRange.positive, Nat.le_refl 1, Nat.le_max_left 1 _⟩

theorem goTo (target : Int) : (pager.goTo target).InRange := by
  refine ⟨inRange.positive, ?_, ?_⟩
  · show 1 ≤ (max 1 (min target (max pager.pageCount 1 : Nat))).toNat
    omega
  · show (max 1 (min target (max pager.pageCount 1 : Nat))).toNat ≤ max 1 pager.pageCount
    omega

theorem sync (total : Nat) : (pager.sync total).InRange := by
  unfold Pager.sync
  dsimp only
  split
  · exact ⟨inRange.positive, Nat.le_refl 1, Nat.le_max_left 1 _⟩
  · next here =>
    exact ⟨inRange.positive, inRange.one_le, Nat.le_trans (Nat.not_lt.mp here) (Nat.le_max_right 1 _)⟩

/-! ### What is on the page -/

theorem before_le : (pager.current - 1) * pager.size ≤ pager.total := by
  by_cases first : pager.current = 1
  · rw [first, Nat.sub_self, Nat.zero_mul]
    exact Nat.zero_le _
  · have := inRange.one_le
    have := inRange.current_le
    have more : pager.current - 1 < pager.pageCount := by omega
    exact Nat.le_of_lt ((lt_pageCount_iff inRange.positive _).mp more)

/-- **The slice of the current page**, between the pages before and the pages after. -/
theorem slice_eq {α : Type} (items : List α) :
    pager.slice items =
      (items.take (min (pager.current * pager.size) pager.total)).drop
        ((pager.current - 1) * pager.size) := by
  unfold slice last first
  rw [Nat.min_eq_left inRange.before_le, mul_page inRange.one_le]

/-- A page shows something if there is something. -/
theorem eq_nil_of_slice {α : Type} {items : List α} (length : items.length = pager.total)
    (empty : pager.slice items = []) : items = [] := by
  have positive := inRange.positive
  have one_le := inRange.one_le
  rw [inRange.slice_eq, List.drop_eq_nil_iff, List.length_take, length] at empty
  rw [← List.length_eq_zero_iff, length]
  -- with an item the current page is one of the pages, so the ones before do not hold all items
  refine Classical.byContradiction fun some => ?_
  have more : 0 < pager.pageCount := by
    rw [lt_pageCount_iff positive]
    omega
  have behind : pager.current - 1 < pager.pageCount := by
    have := inRange.current_le
    omega
  rw [lt_pageCount_iff positive] at behind
  have next : (pager.current - 1) * pager.size < pager.current * pager.size :=
    Nat.mul_lt_mul_of_pos_right (by omega) positive
  omega

/-- The strip shows the current page unless it is empty. -/
theorem mem_strip (shown : pager.strip ≠ []) : .page pager.current ∈ pager.strip := by
  have some : pager.pageCount ≠ 0 := by
    intro none
    unfold strip at shown
    rw [none] at shown
    exact shown rfl
  have := inRange.current_le
  exact mem_pageStrip inRange.one_le (by omega)

end InRange

end Pager

end HostDashboard
