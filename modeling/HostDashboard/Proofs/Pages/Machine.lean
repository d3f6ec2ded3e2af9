/-
**The pager on a machine.**

A `WordPager` has words of 64 bits for its numbers, and computes with the operations of `Machine`, which stop with a
fault where a word is too short. Beside it stands the pager on unbounded numbers (`toPager`). As long as the number
of items leaves room for one page more, and is a number with a sign itself (`Pager.Roomy`), the two agree:

* whatever is asked of a roomy pager comes to its end with the answer of the other (`pageCount_ends` to `strip_ends`).
  Nothing overflows because the pages before the current one hold no more than all items, which holds of every pager
  that stands on one of its pages;
* a move comes to its end as well, with the pager after that move (`after_ends`), and so do many (`run_ends`).

The strip of page numbers needs no room at all (`wordStrip_ends`).
-/

import HostDashboard.Proofs.Machine
import HostDashboard.Proofs.Pages.Partition

namespace HostDashboard

open Machine

/-! ### Pagers with room -/

/-- The number of items leaves room for one page more, and is a number with a sign. -/
structure Pager.Roomy (pager : Pager) : Prop where
  inRange : pager.InRange
  total_lt : pager.total < 2 ^ 63
  counted : pager.total + pager.size < 2 ^ 64

namespace Pager.Roomy

variable {pager : Pager}

theorem fits (roomy : pager.Roomy) : pager.Fits := roomy.inRange.fits roomy.total_lt roomy.counted

theorem after (roomy : pager.Roomy) {move : Move}
    (fits : ∀ total, move = .sync total → total < 2 ^ 63 ∧ total + pager.size < 2 ^ 64) :
    (pager.after move).Roomy := by
  have room : (pager.after move).total < 2 ^ 63 ∧ (pager.after move).total + pager.size < 2 ^ 64 := by
    cases move with
    | sync total =>
      show (pager.sync total).total < _ ∧ (pager.sync total).total + _ < _
      rw [total_sync]
      exact fits total rfl
    | _ => exact ⟨roomy.total_lt, roomy.counted⟩
  refine ⟨roomy.inRange.after move, room.1, ?_⟩
  rw [size_after]
  exact room.2

end Pager.Roomy

/-! ### The strip of page numbers -/

/-- The pages from one number to another. -/
def wordRun (first last : UInt64) : List PageLink :=
  pageRun first.toNat (last.toNat + 1 - first.toNat)

/-- The strip of page numbers, computed with words. -/
def wordStrip (current total : UInt64) : Except Fault (List PageLink) :=
  if total.toNat ≤ fullStrip then return wordRun 1 total
  else if current.toNat ≤ 3 then return wordRun 1 4 ++ [.gap, .page total.toNat]
  else do
    let nearLast ← sub total 2
    if nearLast.toNat ≤ current.toNat then
      let first ← sub total 3
      return [.page 1, .gap] ++ wordRun first total
    else
      let before ← sub current 1
      let behind ← add current 1
      return [.page 1, .gap] ++ [.page before.toNat, .page current.toNat, .page behind.toNat] ++
        [.gap, .page total.toNat]

/-- **The strip comes to its end for any two words.** -/
theorem wordStrip_ends (current total : UInt64) :
    Ends (wordStrip current total) (· = pageStrip current.toNat total.toNat) := by
  have total_lt := total.toNat_lt_size
  unfold wordStrip pageStrip
  split
  · exact .ok rfl
  next many =>
  unfold fullStrip at many
  split
  · exact .ok rfl
  next late =>
  have two_le : 2 ≤ total.toNat := by omega
  refine (sub_ends total 2 two_le).bind fun nearLast (nearLast_eq : nearLast.toNat = total.toNat - 2) => ?_
  rw [nearLast_eq]
  split
  · have three_le : 3 ≤ total.toNat := by omega
    refine (sub_ends total 3 three_le).bind fun first (first_eq : first.toNat = total.toNat - 3) => .ok ?_
    have four : total.toNat + 1 - (total.toNat - 3) = 4 := by omega
    rw [wordRun, first_eq, four]
  · have one_le : 1 ≤ current.toNat := by omega
    have behind_lt : current.toNat + 1 < UInt64.size := by omega
    refine (sub_ends current 1 one_le).bind fun before (before_eq : before.toNat = current.toNat - 1) => ?_
    refine (add_ends current 1 behind_lt).bind
      fun behind (behind_eq : behind.toNat = current.toNat + 1) => .ok ?_
    have around : current.toNat = before.toNat + 1 ∧ behind.toNat = before.toNat + 2 := by omega
    rw [← before_eq, around.1, around.2]
    rfl

/-! ### The pager -/

/-- A pager whose numbers are words. -/
structure WordPager where
  size : UInt64
  current : UInt64
  total : UInt64
  deriving DecidableEq, Repr

namespace WordPager

/-- Pages of a given size, at least one. -/
def ofSize (size : UInt64) : WordPager := { size := max size 1, current := 1, total := 0 }

/-- The same pager on unbounded numbers. -/
def toPager (pager : WordPager) : Pager where
  size := pager.size.toNat
  current := pager.current.toNat
  total := pager.total.toNat

def pageCount (pager : WordPager) : Except Fault UInt64 := do
  let sum ← add pager.total pager.size
  let most ← sub sum 1
  div most pager.size

/-- The last page that a move can lead to. -/
def lastPage (pager : WordPager) : Except Fault UInt64 := do
  let pages ← pager.pageCount
  return max pages 1

def sync (pager : WordPager) (total : UInt64) : Except Fault WordPager := do
  let counted := { pager with total }
  let pages ← counted.pageCount
  return if pages < counted.current then { counted with current := 1 } else counted

def goTo (pager : WordPager) (target : Int64) : Except Fault WordPager := do
  let last ← pager.lastPage
  let nearest ← clamp target 1 last.toInt64
  return { pager with current := nearest.toUInt64 }

def reset (pager : WordPager) : WordPager := { pager with current := 1 }

/-- The places of the first item on the current page and behind the last one. -/
def range (pager : WordPager) : Except Fault (UInt64 × UInt64) := do
  let before ← sub pager.current 1
  let items ← mul before pager.size
  let first := min items pager.total
  let behind ← add first pager.size
  return (first, min behind pager.total)

/-- The part of a list on the current page, whatever the length of the list. -/
def slice {α : Type} (pager : WordPager) (items : List α) : Except Fault (List α) := do
  let (first, last) ← pager.range
  let stop := min last (.ofNat items.length)
  part items (min first stop) stop

def strip (pager : WordPager) : Except Fault (List PageLink) := do
  let pages ← pager.pageCount
  wordStrip pager.current pages

/-- What happens to a pager on a machine. -/
inductive Move where
  | sync (total : UInt64)
  | goTo (target : Int64)
  | reset
  deriving DecidableEq, Repr

/-- The same move on unbounded numbers. -/
def Move.toMove : Move → Pager.Move
  | sync total => .sync total.toNat
  | goTo target => .goTo target.toInt
  | reset => .reset

theorem eq_sync_of_toMove {move : Move} {total : Nat} (same : move.toMove = .sync total) :
    ∃ word, move = .sync word ∧ word.toNat = total := by
  cases move with
  | sync word => exact ⟨word, rfl, Pager.Move.sync.inj same⟩
  | _ => cases same

def after (pager : WordPager) : Move → Except Fault WordPager
  | .sync total => pager.sync total
  | .goTo target => pager.goTo target
  | .reset => .ok pager.reset

def run (pager : WordPager) (moves : List Move) : Except Fault WordPager := moves.foldlM after pager

/-! ### One computation of a pager -/

variable {pager : WordPager}

theorem pageCount_ends (positive : 0 < pager.toPager.size)
    (counted : pager.toPager.total + pager.toPager.size < 2 ^ 64) :
    Ends pager.pageCount fun pages => pages.toNat = pager.toPager.pageCount := by
  unfold pageCount
  refine (add_ends _ _ counted).bind fun sum sum_eq => ?_
  have one_le : 1 ≤ sum.toNat := sum_eq ▸ Nat.le_trans positive (Nat.le_add_left _ _)
  refine (sub_ends sum 1 one_le).bind fun most most_eq => ?_
  refine (div_ends most positive).mono fun pages pages_eq => ?_
  rw [pages_eq, most_eq, sum_eq]
  rfl

theorem sync_ends (positive : 0 < pager.toPager.size) (total : UInt64)
    (counted : total.toNat + pager.toPager.size < 2 ^ 64) :
    Ends (pager.sync total) fun next => next.toPager = pager.toPager.sync total.toNat := by
  -- the pages are counted before the current one is in range again, so only the total has to be roomy
  have count := @pageCount_ends { pager with total } positive counted
  unfold sync
  refine count.bind fun pages pages_eq => .ok ?_
  have gone_iff : pages < pager.current ↔
      ({ pager with total } : WordPager).toPager.pageCount < pager.toPager.current := by
    rw [UInt64.lt_iff_toNat_lt, pages_eq]
    rfl
  by_cases gone : pages < pager.current
  · rw [if_pos gone]
    exact (if_pos (gone_iff.mp gone)).symm
  · rw [if_neg gone]
    exact (if_neg (mt gone_iff.mpr gone)).symm

section Roomy

variable (roomy : pager.toPager.Roomy)

include roomy

/-- The last page keeps its number when it is read with a sign. -/
theorem lastPage_ends :
    Ends pager.lastPage fun last =>
      last.toNat = max pager.toPager.pageCount 1 ∧ last.toInt64.toInt = last.toNat := by
  have low := roomy.fits.lastPage
  unfold lastPage
  refine (pageCount_ends roomy.inRange.positive roomy.counted).bind fun pages pages_eq => .ok ?_
  have last_eq : (max pages 1).toNat = max pager.toPager.pageCount 1 := by
    rw [UInt64.toNat_max, pages_eq]
    rfl
  refine ⟨last_eq, toInt_toInt64 ?_⟩
  rw [last_eq]
  show _ < 2 ^ 64
  omega

theorem goTo_ends (target : Int64) :
    Ends (pager.goTo target) fun next => next.toPager = pager.toPager.goTo target.toInt := by
  unfold goTo
  refine (lastPage_ends roomy).bind fun last ⟨last_eq, signed⟩ => ?_
  rw [last_eq] at signed
  have one : Int64.toInt 1 = 1 := rfl
  have ordered : Int64.toInt 1 ≤ last.toInt64.toInt := by omega
  refine (clamp_ends ordered target).bind fun nearest nearest_eq => .ok ?_
  have back := @toNat_toUInt64 nearest (by omega)
  have current : nearest.toUInt64.toNat =
      (max 1 (min target.toInt (max pager.toPager.pageCount 1 : Nat))).toNat := by omega
  unfold Pager.goTo
  rw [← current]
  rfl

theorem range_ends :
    Ends pager.range fun bounds =>
      bounds.1.toNat = pager.toPager.first ∧ bounds.2.toNat = pager.toPager.last := by
  have fits := roomy.fits
  unfold range
  refine (sub_ends pager.current 1 roomy.inRange.one_le).bind fun before before_eq => ?_
  -- the current page is one of the pages, so those before it hold no more than all items
  have before_lt : before.toNat * pager.size.toNat < UInt64.size := before_eq ▸ fits.before
  refine (mul_ends before pager.size before_lt).bind fun items items_eq => ?_
  have first_eq : (min items pager.total).toNat = pager.toPager.first := by
    rw [UInt64.toNat_min, items_eq, before_eq]
    rfl
  have behind_lt : (min items pager.total).toNat + pager.size.toNat < UInt64.size := first_eq ▸ fits.behind
  refine (add_ends (min items pager.total) pager.size behind_lt).bind fun behind behind_eq =>
    .ok ⟨first_eq, ?_⟩
  rw [UInt64.toNat_min, behind_eq, first_eq]
  rfl

theorem slice_ends {α : Type} {items : List α} (length_lt : items.length < 2 ^ 64) :
    Ends (pager.slice items) (· = pager.toPager.slice items) := by
  unfold slice
  refine (range_ends roomy).bind fun (first, last) ⟨first_eq, last_eq⟩ => ?_
  have length_eq : (UInt64.ofNat items.length).toNat = items.length := UInt64.toNat_ofNat_of_lt' length_lt
  have stop_eq : (min last (.ofNat items.length)).toNat = min pager.toPager.last items.length := by
    rw [UInt64.toNat_min, last_eq, length_eq]
  have start_eq : (min first (min last (.ofNat items.length))).toNat =
      min pager.toPager.first (items.take pager.toPager.last).length := by
    rw [UInt64.toNat_min, first_eq, stop_eq, List.length_take]
  refine (part_ends ?_ ?_).mono fun taken taken_eq => ?_
  · rw [UInt64.toNat_min]
    exact Nat.min_le_right _ _
  · exact stop_eq ▸ Nat.min_le_right _ _
  · rw [taken_eq, stop_eq, start_eq, ← List.take_eq_take_min, ← List.drop_eq_drop_min]
    rfl

theorem strip_ends : Ends pager.strip (· = pager.toPager.strip) := by
  unfold strip
  refine (pageCount_ends roomy.inRange.positive roomy.counted).bind fun pages pages_eq => ?_
  have strip := wordStrip_ends pager.current pages
  rw [pages_eq] at strip
  exact strip

/-- **A move comes to its end**, with what it makes of the pager on unbounded numbers. -/
theorem after_ends (move : Move)
    (fits : ∀ total, move = .sync total → total.toNat + pager.toPager.size < 2 ^ 64) :
    Ends (pager.after move) fun next => next.toPager = pager.toPager.after move.toMove := by
  cases move with
  | sync total => exact sync_ends roomy.inRange.positive total (fits total rfl)
  | goTo target => exact goTo_ends roomy target
  | reset => exact .ok rfl

end Roomy

/-- **Every run comes to its end**, by induction on the moves: each of them leaves a pager with room. -/
theorem run_ends (roomy : pager.toPager.Roomy) {moves : List Move}
    (fits : ∀ total, .sync total ∈ moves →
      total.toNat < 2 ^ 63 ∧ total.toNat + pager.toPager.size < 2 ^ 64) :
    Ends (pager.run moves) fun last =>
      last.toPager = pager.toPager.run (moves.map Move.toMove) ∧ last.toPager.Roomy := by
  induction moves generalizing pager with
  | nil => exact .ok ⟨rfl, roomy⟩
  | cons move rest ih =>
    have moved := after_ends roomy move fun total same => (fits total (same ▸ List.mem_cons_self)).2
    unfold run
    rw [List.foldlM_cons]
    refine moved.bind fun next next_eq => ?_
    have size_eq : next.toPager.size = pager.toPager.size := by
      rw [next_eq, Pager.size_after]
    have nextRoomy : next.toPager.Roomy := by
      rw [next_eq]
      refine roomy.after fun total same => ?_
      obtain ⟨word, rfl, rfl⟩ := eq_sync_of_toMove same
      exact fits word List.mem_cons_self
    have later := ih nextRoomy fun total member => size_eq ▸ fits total (List.mem_cons_of_mem _ member)
    rw [next_eq] at later
    exact later

theorem toPager_ofSize (size : UInt64) : (ofSize size).toPager = Pager.ofSize size.toNat := by
  unfold toPager ofSize Pager.ofSize
  rw [UInt64.toNat_max]
  rfl

/-- **The pager needs no more than words of 64 bits.** A pager is made for pages of some size, and goes through any
moves, with targets that are words with a sign and totals that are numbers of such words and leave room for one page
more. Then every move comes to its end, with what it makes of the pager on unbounded numbers. Afterwards the number
of pages, the bounds of the current page and the strip are computed to their end, without a fault on the way, with
the numbers that the other pager has; so is the part of any list on the current page, be it longer or shorter than
the total; and so is any further move to a page. The last page keeps its number when it is read with a sign and back,
and is not before page one. The strip comes to its end for any current page and any number of pages. -/
theorem run_without_fault {size : UInt64} (one_le : 1 ≤ size) {moves : List Move}
    (fits : ∀ total, .sync total ∈ moves →
      total.toNat ≤ 2 ^ 63 - 1 ∧ total.toNat + size.toNat < 2 ^ 64) :
    (Ends ((ofSize size).run moves) fun pager =>
      let unbounded := (Pager.ofSize size.toNat).run (moves.map Move.toMove)
      pager.toPager = unbounded ∧
      (Ends pager.pageCount fun pages => pages.toNat = unbounded.pageCount) ∧
      (Ends pager.lastPage fun last =>
        last.toInt64.toInt = last.toNat ∧ last.toInt64.toUInt64 = last ∧ 1 ≤ last.toInt64) ∧
      (∀ target, Ends (pager.goTo target) fun next => next.toPager = unbounded.goTo target.toInt) ∧
      (Ends pager.range fun bounds =>
        bounds.1.toNat = unbounded.first ∧ bounds.2.toNat = unbounded.last) ∧
      (∀ (α : Type) (items : List α), items.length < 2 ^ 64 →
        pager.slice items = .ok (unbounded.slice items)) ∧
      pager.strip = .ok unbounded.strip) ∧
    ∀ current total, wordStrip current total = .ok (pageStrip current.toNat total.toNat) := by
  refine ⟨?_, fun current total => (wordStrip_ends current total).eq⟩
  have one : 1 ≤ size.toNat := UInt64.le_iff_toNat_le.mp one_le
  have size_eq : (ofSize size).toPager.size = size.toNat := by
    rw [toPager_ofSize]
    exact Nat.max_eq_left one
  have roomy : (ofSize size).toPager.Roomy := by
    refine ⟨?_, ?_, ?_⟩
    · rw [toPager_ofSize]
      exact Pager.inRange_ofSize _
    · exact Nat.two_pow_pos 63
    · rw [size_eq]
      exact (Nat.zero_add _).trans_lt size.toNat_lt
  have ends := run_ends roomy fun total member => by
    have bounds := fits total member
    rw [size_eq]
    exact ⟨by omega, bounds.2⟩
  rw [toPager_ofSize] at ends
  refine ends.mono fun pager ⟨same, roomy⟩ => ?_
  dsimp only
  rw [← same]
  refine ⟨rfl, pageCount_ends roomy.inRange.positive roomy.counted,
    (lastPage_ends roomy).mono fun last ⟨last_eq, signed⟩ => ⟨signed, UInt64.toUInt64_toInt64 last, ?_⟩,
    fun target => goTo_ends roomy target, range_ends roomy,
    fun α items length_lt => (slice_ends roomy length_lt).eq, (strip_ends roomy).eq⟩
  have one_le_last : 1 ≤ last.toInt64.toInt := by omega
  exact Int64.le_iff_toInt_le.mpr one_le_last

/-- As many items as a word with a sign can count, and moves as far as such words reach. -/
def farthestMoves : List Move :=
  [.sync 0x7FFFFFFFFFFFFFFF, .goTo (-0x8000000000000000), .goTo 0x7FFFFFFFFFFFFFFF]

/-- One item on a page: the last page is the greatest word with a sign, and a list of one item does not reach it. -/
theorem run_without_fault_farthest :
    1 ≤ (1 : UInt64) ∧
      (∀ total, .sync total ∈ farthestMoves →
        total.toNat ≤ 2 ^ 63 - 1 ∧ total.toNat + (1 : UInt64).toNat < 2 ^ 64) ∧
      ["only"].length < 2 ^ 64 ∧
      Ends ((ofSize 1).run farthestMoves) fun pager =>
        pager.toPager.current = 2 ^ 63 - 1 ∧ pager.slice ["only"] = .ok [] ∧
          pager.strip = .ok ([.page 1, .gap] ++ pageRun (2 ^ 63 - 4) 4) := by
  have one_le : 1 ≤ (1 : UInt64) := by decide
  have fits : ∀ total, .sync total ∈ farthestMoves →
      total.toNat ≤ 2 ^ 63 - 1 ∧ total.toNat + (1 : UInt64).toNat < 2 ^ 64 := by
    intro total member
    obtain rfl : total = 0x7FFFFFFFFFFFFFFF := by simpa [farthestMoves] using member
    decide
  have short : ["only"].length < 2 ^ 64 := by decide
  refine ⟨one_le, fits, short, (run_without_fault one_le fits).1.mono fun pager both => ?_⟩
  obtain ⟨same, _, _, _, _, slice, strip⟩ := both
  rw [same, slice String ["only"] short, strip]
  decide +kernel

/-- Without room for one page more the number of pages cannot be computed. -/
example : (WordPager.mk 10 1 0xFFFFFFFFFFFFFFFF).pageCount = .error .overflow := by decide +kernel

/-- A last page that is no number with a sign is read as one before page one. -/
example : (WordPager.mk 1 1 0x8000000000000000).goTo 1 = .error .crossedBounds := by decide +kernel

end WordPager

end HostDashboard
