/-
**The strip of page numbers leaves out nothing silently.**

A strip is a list of page numbers, in order, with a gap exactly where numbers are left out. `abridged` makes such
a strip of any numbers, and `pageStrip` is `abridged` of the numbers in `stripNumbers` (`pageStrip_eq`), whatever
the current page and the number of pages are. So the gaps are known without looking at the four kinds of strip:

* `GapsExact`: between two numbers that follow one another there is a gap exactly if they are more than one
  apart, and no gap is first, last or next to another one;
* `gapsExact_abridged`: so it is for whatever is abridged, by induction on the numbers.

Which numbers there are is a matter of the four cases; `pageStrip_abridges` puts the two together.
-/

import HostDashboard.Proofs.Pages.Current
import Mathlib.Data.List.Infix

namespace HostDashboard

/-- The number that an entry shows. -/
def PageLink.number? : PageLink → Option Nat
  | page number => some number
  | gap => none

/-- Page numbers with a gap wherever some are left out in between. -/
def abridged : List Nat → List PageLink
  | [] => []
  | [number] => [.page number]
  | number :: next :: rest =>
    .page number :: ((if number + 1 < next then [.gap] else []) ++ abridged (next :: rest))

/-! ### Gaps -/

theorem abridged_cons (number next : Nat) (rest : List Nat) :
    abridged (number :: next :: rest) =
      .page number :: ((if number + 1 < next then [.gap] else []) ++ abridged (next :: rest)) :=
  rfl

/-- What is abridged starts with its first number. -/
theorem exists_abridged_cons (number : Nat) (rest : List Nat) :
    ∃ others, abridged (number :: rest) = .page number :: others := by
  cases rest with
  | nil => exact ⟨[], rfl⟩
  | cons next rest => exact ⟨_, abridged_cons number next rest⟩

theorem head?_abridged (numbers : List Nat) : (abridged numbers).head? = numbers.head?.map .page := by
  cases numbers with
  | nil => rfl
  | cons number rest =>
    obtain ⟨others, same⟩ := exists_abridged_cons number rest
    rw [same]
    rfl

theorem abridged_ne_nil (number : Nat) (rest : List Nat) : abridged (number :: rest) ≠ [] := by
  obtain ⟨others, same⟩ := exists_abridged_cons number rest
  rw [same]
  exact List.cons_ne_nil _ _

theorem getLast?_abridged (numbers : List Nat) :
    (abridged numbers).getLast? = numbers.getLast?.map .page := by
  induction numbers with
  | nil => rfl
  | cons number rest ih =>
    cases rest with
    | nil => rfl
    | cons next rest =>
      rw [abridged_cons, ← List.singleton_append, ← List.append_assoc,
        List.getLast?_append_of_ne_nil _ (abridged_ne_nil next rest), ih, List.getLast?_cons_cons]

theorem abridged_suffix_cons (number : Nat) (rest : List Nat) :
    abridged rest <:+ abridged (number :: rest) := by
  cases rest with
  | nil => exact List.nil_suffix
  | cons next rest =>
    rw [abridged_cons]
    exact (List.suffix_append _ _).trans (List.suffix_cons _ _)

/-- **Nothing but gaps is added.** -/
theorem filterMap_abridged (numbers : List Nat) :
    (abridged numbers).filterMap PageLink.number? = numbers := by
  induction numbers with
  | nil => rfl
  | cons number rest ih =>
    cases rest with
    | nil => rfl
    | cons next rest =>
      have shown : (PageLink.page number).number? = some number := rfl
      rw [abridged_cons, List.filterMap_cons_some shown, List.filterMap_append, ih]
      split <;> rfl

theorem gaps_apart (numbers : List Nat) : ¬ [.gap, .gap] <:+: abridged numbers := by
  induction numbers with
  | nil => simp [abridged]
  | cons number rest ih =>
    cases rest with
    | nil => simp [abridged, List.infix_cons_iff]
    | cons next rest =>
      obtain ⟨others, same⟩ := exists_abridged_cons next rest
      rw [abridged_cons]
      split <;> simp_all [List.infix_cons_iff]

/-- A gap stands between two numbers that are more than one apart. -/
theorem lt_of_infix_abridged {numbers : List Nat} {first second : Nat}
    (gap : [.page first, .gap, .page second] <:+: abridged numbers) : first + 1 < second := by
  induction numbers with
  | nil => simp [abridged] at gap
  | cons number rest ih =>
    cases rest with
    | nil => simp [abridged, List.infix_cons_iff] at gap
    | cons next rest =>
      obtain ⟨others, same⟩ := exists_abridged_cons next rest
      -- the gap stands right behind the first number, or behind a later one
      rw [abridged_cons, List.infix_cons_iff] at gap
      split at gap
      · next apart =>
        rcases gap with here | later
        · rw [same] at here
          obtain ⟨rfl, rfl⟩ : first = number ∧ second = next := by simpa using here
          exact apart
        · rw [List.singleton_append, List.infix_cons_iff] at later
          rcases later with gapFirst | later
          · simp at gapFirst
          · exact ih later
      · rw [List.nil_append] at gap
        rcases gap with here | later
        · rw [same] at here
          simp at here
        · exact ih later

/-- Two neighbours that are more than one apart have a gap between them. -/
theorem infix_abridged {numbers : List Nat} {first second : Nat}
    (neighbours : [first, second] <:+: numbers) (apart : first + 1 < second) :
    [.page first, .gap, .page second] <:+: abridged numbers := by
  obtain ⟨front, back, rfl⟩ := neighbours
  induction front with
  | nil =>
    obtain ⟨others, same⟩ := exists_abridged_cons second back
    refine ⟨[], others, ?_⟩
    show _ = abridged (first :: second :: back)
    rw [abridged_cons, if_pos apart, same]
    rfl
  | cons number rest ih => exact ih.trans (abridged_suffix_cons number _).isInfix

/-- Gaps stand exactly where numbers are left out. -/
structure GapsExact (strip : List PageLink) : Prop where
  /-- Two numbers that follow one another have a gap between them exactly if they are more than one apart. -/
  gap_iff : ∀ first second, [first, second] <:+: strip.filterMap PageLink.number? →
    ([.page first, .gap, .page second] <:+: strip ↔ first + 1 < second)
  notFirst : strip.head? ≠ some .gap
  notLast : strip.getLast? ≠ some .gap
  apart : ¬ [.gap, .gap] <:+: strip

/-- **What is abridged has its gaps in place.** -/
theorem gapsExact_abridged (numbers : List Nat) : GapsExact (abridged numbers) where
  gap_iff := fun first second neighbours => by
    rw [filterMap_abridged] at neighbours
    exact ⟨lt_of_infix_abridged, infix_abridged neighbours⟩
  notFirst := by
    rw [head?_abridged]
    cases numbers.head? <;> simp
  notLast := by
    rw [getLast?_abridged]
    cases numbers.getLast? <;> simp
  apart := gaps_apart numbers

/-- Pages one after the other need no gap. -/
theorem abridged_range' (first count : Nat) : abridged (List.range' first count) = pageRun first count := by
  induction count generalizing first with
  | zero => rfl
  | succ count ih =>
    cases count with
    | zero => rfl
    | succ count =>
      have next := ih (first + 1)
      rw [List.range'_succ] at next
      rw [List.range'_succ, List.range'_succ, abridged_cons, if_neg (Nat.lt_irrefl _), next]
      rfl

/-! ### The numbers on the strip -/

/-- The numbers that are shown: all up to five, and beyond that the first, the last and some around the current
one. -/
def stripNumbers (current total : Nat) : List Nat :=
  if total ≤ fullStrip then List.range' 1 total
  else if current ≤ 3 then [1, 2, 3, 4, total]
  else if total - 2 ≤ current then [1, total - 3, total - 2, total - 1, total]
  else [1, current - 1, current, current + 1, total]

/-- **The strip is its numbers, abridged.** -/
theorem pageStrip_eq (current total : Nat) : pageStrip current total = abridged (stripNumbers current total) := by
  unfold pageStrip stripNumbers
  split
  · exact (abridged_range' 1 total).symm
  next many =>
  unfold fullStrip at many
  split
  · have apart : 4 + 1 < total := by omega
    simp [abridged, pageRun, List.range'_succ, apart]
  split
  · have apart : 1 + 1 < total - 3 := by omega
    have third : total - 3 + 1 = total - 2 := by omega
    have second : total - 2 + 1 = total - 1 := by omega
    have last : total - 1 + 1 = total := by omega
    simp [abridged, pageRun, List.range'_succ, apart, third, second, last]
  · have before : 1 + 1 < current - 1 := by omega
    have own : current - 1 + 1 = current := by omega
    have after : current + 1 + 1 < total := by omega
    simp [abridged, pageRun, List.range'_succ, before, own, after]

section StripNumbers

variable {current total : Nat}

/-- The first page, the last one, the current one and those next to it are there. -/
theorem mem_stripNumbers {number : Nat} (one_le : 1 ≤ number) (number_le : number ≤ total)
    (near : number = 1 ∨ number = total ∨ (current ≤ number + 1 ∧ number ≤ current + 1)) :
    number ∈ stripNumbers current total := by
  unfold stripNumbers fullStrip
  split_ifs <;> simp only [List.mem_range'_1, List.mem_cons, List.not_mem_nil, or_false] <;> omega

variable (current_le : current ≤ total)

include current_le

theorem within_of_mem_stripNumbers {number : Nat} (member : number ∈ stripNumbers current total) :
    1 ≤ number ∧ number ≤ total := by
  unfold stripNumbers fullStrip at member
  split_ifs at member <;>
    simp only [List.mem_range'_1, List.mem_cons, List.not_mem_nil, or_false] at member <;> omega

theorem stripNumbers_increasing : (stripNumbers current total).Pairwise (· < ·) := by
  unfold stripNumbers fullStrip
  split_ifs
  · exact List.pairwise_lt_range'
  all_goals
    rw [← List.isChain_iff_pairwise]
    simp only [List.isChain_cons_cons, List.IsChain.singleton, and_true]
    omega

end StripNumbers

theorem length_pageStrip_le (current total : Nat) : (pageStrip current total).length ≤ 7 := by
  unfold pageStrip pageRun fullStrip
  split_ifs <;> simp only [List.length_append, List.length_map, List.length_range', List.length_cons,
    List.length_nil] <;> omega

/-- **The strip of page numbers is a faithful abbreviation** of the pages, for every current page among them.
The numbers on it are strictly increasing, from page one to the last page, and the current page and those next
to it are among them. Gaps stand exactly where numbers are left out. Up to five pages are all listed, and there
are never more than seven entries. -/
theorem pageStrip_abridges {current total : Nat} (one_le : 1 ≤ current) (current_le : current ≤ total) :
    let strip := pageStrip current total
    let shown := strip.filterMap PageLink.number?
    shown.Pairwise (· < ·) ∧
      (∀ number ∈ shown, 1 ≤ number ∧ number ≤ total) ∧
      1 ∈ shown ∧ total ∈ shown ∧ current ∈ shown ∧
      (∀ number, number + 1 = current ∨ number = current + 1 → 1 ≤ number → number ≤ total →
        number ∈ shown) ∧
      GapsExact strip ∧
      (total ≤ 5 → shown = List.range' 1 total) ∧
      strip.length ≤ 7 := by
  dsimp only
  have gaps : GapsExact (pageStrip current total) := by
    rw [pageStrip_eq]
    exact gapsExact_abridged _
  have shown : (pageStrip current total).filterMap PageLink.number? = stripNumbers current total := by
    rw [pageStrip_eq, filterMap_abridged]
  rw [shown]
  refine ⟨stripNumbers_increasing current_le, fun _ => within_of_mem_stripNumbers current_le,
    mem_stripNumbers (Nat.le_refl 1) (by omega) (by omega),
    mem_stripNumbers (by omega) (Nat.le_refl total) (by omega),
    mem_stripNumbers one_le current_le (by omega),
    fun number next one_le number_le => mem_stripNumbers one_le number_le (by omega),
    gaps, fun few => ?_, length_pageStrip_le current total⟩
  rw [stripNumbers]
  exact if_pos few

/-- The page in the middle of seven: numbers are left out on both sides. -/
theorem pageStrip_abridges_middle :
    1 ≤ 4 ∧ 4 ≤ 7 ∧
      pageStrip 4 7 = [.page 1, .gap, .page 3, .page 4, .page 5, .gap, .page 7] ∧
      GapsExact (pageStrip 4 7) ∧ (pageStrip 4 7).length ≤ 7 := by
  have one_le : 1 ≤ 4 := by decide
  have current_le : 4 ≤ 7 := by decide
  obtain ⟨_, _, _, _, _, _, gaps, _, short⟩ := pageStrip_abridges one_le current_le
  exact ⟨one_le, current_le, rfl, gaps, short⟩

end HostDashboard
