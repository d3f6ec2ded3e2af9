/-
**The pages are a partition of the items.**

Whatever a pager went through, it stands on one of its pages, and the size of a page is the one it was made with
(`InRange.run`, `size_run`). What is on a page does not depend on how the pager came there: page `n` holds the
items from `n - 1` times a page on, as far as they go (`InRange.slice_goTo`). So the pages one after the other
hold all items (`InRange.flatMap_slices`), all but the last are full, and none is empty.

* `pageCount_eq_ceil`, `goTo_nearest`, `current_sync`: how many pages there are, where a move leads, and what
  becomes of the current page when the number of items changes;
* `InRange.fits`: nothing that is computed on the way leaves the words of 64 bits;
* `pages_partition` puts this together for every pager that can be reached.
-/

import HostDashboard.Proofs.Pages.Current
import Mathlib.Data.Rat.Floor

namespace HostDashboard

namespace Pager

/-- What happens to a pager. -/
inductive Move where
  | sync (total : Nat)
  | goTo (target : Int)
  | reset
  deriving DecidableEq, Repr

def after (pager : Pager) : Move → Pager
  | .sync total => pager.sync total
  | .goTo target => pager.goTo target
  | .reset => pager.reset

def run (pager : Pager) (moves : List Move) : Pager := moves.foldl after pager

theorem inRange_ofSize (size : Nat) : (ofSize size).InRange :=
  ⟨Nat.lt_of_lt_of_le Nat.one_pos (Nat.le_max_right size 1), Nat.le_refl 1, Nat.le_max_left 1 _⟩

theorem size_after (pager : Pager) (move : Move) : (pager.after move).size = pager.size := by
  cases move with
  | sync total => exact size_sync pager total
  | _ => rfl

theorem size_run (pager : Pager) (moves : List Move) : (pager.run moves).size = pager.size := by
  induction moves generalizing pager with
  | nil => rfl
  | cons move rest ih => exact (ih (pager.after move)).trans (size_after pager move)

theorem InRange.after {pager : Pager} (inRange : pager.InRange) (move : Move) :
    (pager.after move).InRange := by
  cases move with
  | sync total => exact inRange.sync total
  | goTo target => exact inRange.goTo target
  | reset => exact inRange.reset

theorem InRange.run {pager : Pager} (inRange : pager.InRange) (moves : List Move) :
    (pager.run moves).InRange := by
  induction moves generalizing pager with
  | nil => exact inRange
  | cons move rest ih => exact ih (inRange.after move)

/-! ### How many pages there are, and which one is next -/

/-- **As many pages as it takes to hold all items.** -/
theorem pageCount_eq_ceil {pager : Pager} (positive : 0 < pager.size) :
    pager.pageCount = ⌈(pager.total : ℚ) / pager.size⌉₊ := by
  refine eq_of_forall_lt_iff fun n => ?_
  have size : (0 : ℚ) < pager.size := Nat.cast_pos.mpr positive
  rw [lt_pageCount_iff positive, Nat.lt_ceil, lt_div_iff₀ size, ← Nat.cast_mul, Nat.cast_lt]

theorem current_goTo (pager : Pager) (target : Int) :
    ((pager.goTo target).current : Int) = max 1 (min target (max pager.pageCount 1 : Nat)) := by
  show (((max 1 (min target (max pager.pageCount 1 : Nat))).toNat : Nat) : Int) = _
  omega

/-- A page that is there is reached. -/
theorem current_goTo_of_le {pager : Pager} {number : Nat} (one_le : 1 ≤ number)
    (number_le : number ≤ pager.pageCount) : (pager.goTo number).current = number := by
  have current := pager.current_goTo number
  omega

theorem goTo_nearest (pager : Pager) (target : Int) {number : Nat} (one_le : 1 ≤ number)
    (number_le : number ≤ max 1 pager.pageCount) (other : number ≠ (pager.goTo target).current) :
    (target - (pager.goTo target).current).natAbs < (target - number).natAbs := by
  have current := pager.current_goTo target
  omega

theorem pageCount_sync (pager : Pager) (total : Nat) :
    (pager.sync total).pageCount = ({ pager with total } : Pager).pageCount := by
  rw [pageCount, total_sync, size_sync]
  rfl

/-- **A page is kept if it is still there**, and else left for page one. -/
theorem current_sync (pager : Pager) (total : Nat) :
    (pager.sync total).current =
      if pager.current ≤ (pager.sync total).pageCount then pager.current else 1 := by
  rw [pageCount_sync]
  unfold sync
  dsimp only
  split
  · next gone => rw [if_neg (Nat.not_le.mpr gone)]
  · next here => rw [if_pos (Nat.not_lt.mp here)]

/-- Nothing that is computed of the pager overflows: the sums and products are numbers of 64 bits, and the number
of the last page is one with a sign. -/
structure Fits (pager : Pager) : Prop where
  counted : pager.total + pager.size < 2 ^ 64
  lastPage : max pager.pageCount 1 < 2 ^ 63
  before : (pager.current - 1) * pager.size < 2 ^ 64
  behind : pager.first + pager.size < 2 ^ 64

namespace InRange

variable {pager : Pager} (inRange : pager.InRange)

include inRange

theorem hasPrevious_iff : pager.hasPrevious = true ↔ 0 < pager.first := by
  have positive := inRange.positive
  unfold hasPrevious first
  rw [decide_eq_true_eq, Nat.min_eq_left inRange.before_le, Nat.mul_pos_iff_of_pos_right positive]
  omega

/-- The current page keeps its number exactly if that is the number of a page, or one. -/
theorem current_sync_eq_iff (total : Nat) :
    (pager.sync total).current = pager.current ↔ pager.current ≤ max 1 (pager.sync total).pageCount := by
  have one_le := inRange.one_le
  rw [current_sync]
  split <;> omega

/-- The items before the current page and those on it are so many pages of items, as far as there are any. -/
theorem last_eq : pager.last = min (pager.current * pager.size) pager.total := by
  unfold last first
  rw [Nat.min_eq_left inRange.before_le, mul_page inRange.one_le]

theorem hasNext_iff_last : pager.hasNext = true ↔ pager.last < pager.total := by
  unfold hasNext
  rw [decide_eq_true_eq, lt_pageCount_iff inRange.positive, inRange.last_eq]
  omega

section Items

variable {α : Type} {items : List α} (length : items.length = pager.total)

include length

/-- **The items of the current page.** -/
theorem slice_eq_drop_take :
    pager.slice items =
      (items.take (pager.current * pager.size)).drop ((pager.current - 1) * pager.size) := by
  rw [inRange.slice_eq, ← length, ← List.take_take, List.take_length]

/-- **The items of any page**, wherever the pager stands. -/
theorem slice_goTo {number : Nat} (one_le : 1 ≤ number) (number_le : number ≤ pager.pageCount) :
    (pager.goTo number).slice items =
      (items.take (number * pager.size)).drop ((number - 1) * pager.size) := by
  have slice := (inRange.goTo number).slice_eq_drop_take length
  rw [current_goTo_of_le one_le number_le] at slice
  exact slice

theorem length_slice_goTo {number : Nat} (one_le : 1 ≤ number) (number_le : number ≤ pager.pageCount) :
    ((pager.goTo number).slice items).length =
      min pager.size (pager.total - (number - 1) * pager.size) := by
  have next := mul_page one_le pager.size
  rw [inRange.slice_goTo length one_le number_le, List.length_drop, List.length_take, length, next]
  omega

/-- No page is empty. -/
theorem slice_goTo_ne_nil {number : Nat} (one_le : 1 ≤ number) (number_le : number ≤ pager.pageCount) :
    (pager.goTo number).slice items ≠ [] := by
  have positive := inRange.positive
  have before : (number - 1) * pager.size < pager.total :=
    (lt_pageCount_iff positive _).mp (by omega)
  rw [← List.length_pos_iff, inRange.length_slice_goTo length one_le number_le]
  omega

/-- **Every page but the last is full.** -/
theorem length_slice_goTo_of_lt {number : Nat} (one_le : 1 ≤ number) (number_lt : number < pager.pageCount) :
    ((pager.goTo number).slice items).length = pager.size := by
  have through : number * pager.size < pager.total := (lt_pageCount_iff inRange.positive _).mp number_lt
  have next := mul_page one_le pager.size
  rw [inRange.length_slice_goTo length one_le number_lt.le]
  omega

/-- The first pages hold the first items, by induction on the number of pages. -/
theorem flatMap_slices_take {count : Nat} (count_le : count ≤ pager.pageCount) :
    (List.range' 1 count).flatMap (fun number : Nat => (pager.goTo number).slice items) =
      items.take (count * pager.size) := by
  induction count with
  | zero => simp
  | succ count ih =>
    have page := inRange.slice_goTo length (Nat.succ_pos count) count_le
    -- the items of the pages so far are those of one page more, without that page
    have before : items.take (count * pager.size) =
        (items.take ((count + 1) * pager.size)).take (count * pager.size) := by
      rw [List.take_take, Nat.min_eq_left (Nat.mul_le_mul_right _ (Nat.le_succ count))]
    rw [List.range'_concat, List.flatMap_append, ih (by omega), List.flatMap_singleton, Nat.one_mul,
      Nat.add_comm 1 count, page, before]
    exact List.take_append_drop _ _

/-- **The pages one after the other are all items.** -/
theorem flatMap_slices :
    (List.range' 1 pager.pageCount).flatMap (fun number : Nat => (pager.goTo number).slice items) = items := by
  have all : pager.total ≤ pager.pageCount * pager.size := by
    rw [← Nat.not_lt, ← lt_pageCount_iff inRange.positive]
    exact Nat.lt_irrefl _
  rw [inRange.flatMap_slices_take length (Nat.le_refl _), List.take_of_length_le (length ▸ all)]

end Items

/-- **No page leaves the words of 64 bits** if the items and a page more stay within them. -/
theorem fits (total_lt : pager.total < 2 ^ 63) (counted : pager.total + pager.size < 2 ^ 64) : pager.Fits := by
  have pages : pager.pageCount ≤ pager.total := by
    rw [← Nat.not_lt, lt_pageCount_iff inRange.positive, Nat.not_lt]
    exact Nat.le_mul_of_pos_right _ inRange.positive
  have before := inRange.before_le
  have first : pager.first ≤ pager.total := Nat.min_le_right _ _
  exact ⟨counted, by omega, by omega, by omega⟩

end InRange

/-- Whatever holds of the number of items at first and of every new number holds of the number of items. -/
theorem total_run {holds : Nat → Prop} {pager : Pager} (start : holds pager.total) {moves : List Move}
    (each : ∀ total, .sync total ∈ moves → holds total) : holds (pager.run moves).total := by
  induction moves generalizing pager with
  | nil => exact start
  | cons move rest ih =>
    refine ih ?_ fun total member => each total (List.mem_cons_of_mem _ member)
    cases move with
    | sync total =>
      show holds (pager.sync total).total
      rw [total_sync]
      exact each total List.mem_cons_self
    | _ => exact start

/-- **The pages are a partition of the items.** A pager was made for pages of some size, zero taken for one, and
went through any moves. Then it stands on one of its pages, or on page one if there is none. For items of which it
knows the number:

* there are as many pages as it takes to hold all items, and one after the other they are all items;
* no page is empty, and every page but the last is full.

A move leads to the page nearest to the target. There is a page before the current one exactly if the current one
does not begin with the first item, and one after it exactly if it does not end with the last. A new number of
items leaves the current page if it is one of the pages for so many items, and else page one; so the number stays
exactly if it is one of theirs, or one. If no number of items was so large that a page more would leave the words
of 64 bits, nothing that is computed does. -/
theorem pages_partition (size : Nat) (moves : List Move) :
    let pager := (ofSize size).run moves
    (1 ≤ pager.current ∧ pager.current ≤ max 1 pager.pageCount) ∧
    (∀ (α : Type) (items : List α), items.length = pager.total →
      pager.pageCount = ⌈(items.length : ℚ) / (max size 1 : Nat)⌉₊ ∧
      (List.range' 1 pager.pageCount).flatMap (fun number : Nat => (pager.goTo number).slice items) =
        items ∧
      ∀ number : Nat, 1 ≤ number → number ≤ pager.pageCount →
        (pager.goTo number).slice items ≠ [] ∧
          (number < pager.pageCount → ((pager.goTo number).slice items).length = max size 1)) ∧
    (∀ target : Int,
      (1 ≤ (pager.goTo target).current ∧ (pager.goTo target).current ≤ max 1 pager.pageCount) ∧
      ∀ number : Nat, 1 ≤ number → number ≤ max 1 pager.pageCount →
        number ≠ (pager.goTo target).current →
          (target - (pager.goTo target).current).natAbs < (target - number).natAbs) ∧
    ((pager.hasPrevious = true ↔ 0 < pager.first) ∧ (pager.hasNext = true ↔ pager.last < pager.total)) ∧
    (∀ total,
      ((pager.sync total).current =
        if pager.current ≤ ⌈(total : ℚ) / (max size 1 : Nat)⌉₊ then pager.current else 1) ∧
      ((pager.sync total).current = pager.current ↔
        pager.current ≤ max 1 ⌈(total : ℚ) / (max size 1 : Nat)⌉₊)) ∧
    (size < 2 ^ 64 → (∀ total, .sync total ∈ moves → total < 2 ^ 63 ∧ total + max size 1 < 2 ^ 64) →
      pager.Fits) := by
  intro pager
  have inRange : pager.InRange := (inRange_ofSize size).run moves
  have size_eq : pager.size = max size 1 := size_run (ofSize size) moves
  refine ⟨⟨inRange.one_le, inRange.current_le⟩, fun α items length => ⟨?_, ?_, ?_⟩,
    fun target => ⟨⟨(inRange.goTo target).one_le, (inRange.goTo target).current_le⟩,
      fun number => pager.goTo_nearest target⟩,
    ⟨inRange.hasPrevious_iff, inRange.hasNext_iff_last⟩, fun total => ?_, fun size_lt each => ?_⟩
  · rw [pageCount_eq_ceil inRange.positive, length, size_eq]
  · exact inRange.flatMap_slices length
  · intro number one_le number_le
    rw [← size_eq]
    exact ⟨inRange.slice_goTo_ne_nil length one_le number_le, inRange.length_slice_goTo_of_lt length one_le⟩
  · have pages : (pager.sync total).pageCount = ⌈(total : ℚ) / (max size 1 : Nat)⌉₊ := by
      rw [pageCount_eq_ceil (inRange.sync total).positive, total_sync, size_sync, size_eq]
    rw [← pages]
    exact ⟨pager.current_sync total, inRange.current_sync_eq_iff total⟩
  · have none : 0 < 2 ^ 63 ∧ 0 + max size 1 < 2 ^ 64 := ⟨by decide, by omega⟩
    obtain ⟨total_lt, counted⟩ : pager.total < 2 ^ 63 ∧ pager.total + max size 1 < 2 ^ 64 :=
      @total_run (fun total => total < 2 ^ 63 ∧ total + max size 1 < 2 ^ 64) (ofSize size) none moves each
    rw [← size_eq] at counted
    exact inRange.fits total_lt counted

/-- Forty-five items, the fifth page, only twenty-three items, and a page far behind the last. -/
def shrinkingMoves : List Move := [.sync 45, .goTo 5, .sync 23, .goTo 99]

theorem pages_partition_shrinking :
    let pager := (ofSize 10).run shrinkingMoves
    (List.range 23).length = pager.total ∧ pager.current = 3 ∧
      (List.range' 1 pager.pageCount).flatMap
        (fun number : Nat => (pager.goTo number).slice (List.range 23)) = List.range 23 ∧
      1 ≤ 2 ∧ 2 < pager.pageCount ∧ ((pager.goTo 2).slice (List.range 23)).length = 10 ∧
      2 ≠ (pager.goTo (-7)).current ∧
      (-7 - ((pager.goTo (-7)).current : Int)).natAbs < (-7 - (2 : Nat) : Int).natAbs ∧
      10 < 2 ^ 64 ∧
      (∀ total, .sync total ∈ shrinkingMoves → total < 2 ^ 63 ∧ total + max 10 1 < 2 ^ 64) ∧
      pager.Fits := by
  intro pager
  have length : (List.range 23).length = pager.total := by decide
  have second : 2 < pager.pageCount := by decide
  have other : 2 ≠ (pager.goTo (-7)).current := by decide
  have each : ∀ total, .sync total ∈ shrinkingMoves → total < 2 ^ 63 ∧ total + max 10 1 < 2 ^ 64 := by
    intro total member
    simp only [shrinkingMoves, List.mem_cons, Move.sync.injEq, reduceCtorEq, List.not_mem_nil, or_false,
      false_or] at member
    omega
  obtain ⟨_, partition, nearest, _, _, fits⟩ := pages_partition 10 shrinkingMoves
  obtain ⟨_, all, pages⟩ := partition Nat (List.range 23) length
  exact ⟨length, rfl, all, by decide, second, (pages 2 (by decide) second.le).2 second, other,
    (nearest (-7)).2 2 (by decide) (by decide) other, by decide, each, fits (by decide) each⟩

end Pager

end HostDashboard
