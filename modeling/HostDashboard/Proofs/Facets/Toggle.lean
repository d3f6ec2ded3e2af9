/-
**Toggling values, and taking a toggle back.**

A toggle takes a value out at its first place, or puts it at the end. Only the toggled value is counted anew
(`count_flip`), and the order of the others stays: a value can be taken out before or after another one is
flipped (`erase_flip`).

* `copiesAfter` counts a value after it was flipped so many times. Copies are taken out one by one; then the
  value comes and goes (`copiesAfter_pos_iff`). So flips are a matter of parity just if there was at most one
  copy (`parity_iff`).
* `Panel.Ahead` relates two sidebars of which the first has one more value staged. Toggles of anything else
  keep it, at whatever place the value is by then, and toggling the value itself makes the two equal. So a
  toggle is taken back exactly, however late (`Panel.toggle_toggleAll_toggle`).
-/

import HostDashboard.Facets.Panel
import Mathlib.Algebra.Ring.Parity

namespace HostDashboard

namespace Selections

/-! ### One flip -/

/-- The copies of a value after it was flipped once. -/
def flipped (copies : Nat) : Nat := if copies = 0 then 1 else copies - 1

theorem count_flip (value other : String) (values : List String) :
    (flip value values).count other =
      if other = value then flipped (values.count other) else values.count other := by
  unfold flip flipped
  by_cases same : other = value
  · subst same
    by_cases member : other ∈ values
    · simp [member, List.count_eq_zero]
    · simp [member, List.count_eq_zero.mpr member]
  · by_cases member : value ∈ values
    · simp [member, same, List.count_erase_of_ne]
    · simp [member, same, Ne.symm same]

theorem mem_flip_of_ne {value other : String} (differs : other ≠ value) (values : List String) :
    other ∈ flip value values ↔ other ∈ values := by
  rw [← List.count_pos_iff, count_flip, if_neg differs, List.count_pos_iff]

/-- **Where one value is taken out and another flipped, the order does not matter.** -/
theorem erase_flip {value other : String} (differs : value ≠ other) {values : List String}
    (member : value ∈ values) : (flip other values).erase value = flip other (values.erase value) := by
  unfold flip
  by_cases there : other ∈ values
  · rw [if_pos there, if_pos ((List.mem_erase_of_ne differs.symm).mpr there), List.erase_comm]
  · rw [if_neg there, if_neg fun inside => there (List.mem_of_mem_erase inside),
      List.erase_append_left _ member]

/-- A value that was not there is taken back. -/
theorem erase_flip_self {value : String} {values : List String} (absent : value ∉ values) :
    (flip value values).erase value = values := by
  rw [flip, if_neg absent, List.erase_append_right _ absent]
  simp

theorem get_toggle (selections : Selections) (category other : Category) (value : String) :
    (selections.toggle category value).get other =
      if other = category then flip value (selections.get other) else selections.get other := by
  rw [toggle, get_set]
  split
  · next same => rw [same]
  · rfl

/-! ### Many flips -/

/-- The copies of a value after it was flipped `flips` times. -/
def copiesAfter (copies flips : Nat) : Nat :=
  if flips ≤ copies then copies - flips else (flips - copies) % 2

@[simp] theorem copiesAfter_zero (copies : Nat) : copiesAfter copies 0 = copies := by
  simp [copiesAfter]

theorem copiesAfter_flipped (copies flips : Nat) :
    copiesAfter (flipped copies) flips = copiesAfter copies (flips + 1) := by
  unfold copiesAfter flipped
  split_ifs <;> omega

/-- **Copies are taken out one by one; then the value comes and goes.** -/
theorem copiesAfter_pos_iff (copies flips : Nat) :
    0 < copiesAfter copies flips ↔ flips < copies ∨ Odd (flips - copies) := by
  rw [Nat.odd_iff]
  unfold copiesAfter
  split <;> omega

/-- **Only the parity of the flips counts just if there is at most one copy.** -/
theorem parity_iff (copies : Nat) :
    (∀ flips, 0 < copiesAfter copies flips ↔ Xor (0 < copies) (Odd flips)) ↔ copies ≤ 1 := by
  simp only [copiesAfter_pos_iff, xor_def, Nat.odd_iff]
  constructor
  · intro parity
    have once := parity 1
    omega
  · intro single flips
    omega

end Selections

/-! ### Sidebars -/

namespace Panel

/-- Toggles from left to right. -/
def toggleAll (panel : Panel) (toggles : List (Category × String)) : Panel :=
  toggles.foldl (fun panel pair => panel.toggle pair.1 pair.2) panel

/-- The first sidebar has a value staged somewhere in a category; without it, the two are equal. -/
structure Ahead (category : Category) (value : String) (first second : Panel) : Prop where
  committed : first.committed = second.committed
  others : ∀ other, other ≠ category → first.staged.get other = second.staged.get other
  mem : value ∈ first.staged.get category
  erase : (first.staged.get category).erase value = second.staged.get category

variable {category : Category} {value : String} {first second : Panel}

theorem get_staged_toggle (panel : Panel) (category other : Category) (value : String) :
    (panel.toggle category value).staged.get other =
      if other = category then Selections.flip value (panel.staged.get other)
      else panel.staged.get other :=
  panel.staged.get_toggle category other value

theorem ahead_toggle {panel : Panel} (absent : value ∉ panel.staged.get category) :
    Ahead category value (panel.toggle category value) panel where
  committed := rfl
  others other differs := by rw [get_staged_toggle, if_neg differs]
  mem := by simp [get_staged_toggle, Selections.flip, absent]
  erase := by rw [get_staged_toggle, if_pos rfl, Selections.erase_flip_self absent]

namespace Ahead

/-- **A toggle of anything else keeps the first ahead.** -/
theorem toggle (ahead : Ahead category value first second) {category' : Category} {value' : String}
    (other : (category', value') ≠ (category, value)) :
    Ahead category value (first.toggle category' value') (second.toggle category' value') := by
  have others : ∀ each, each ≠ category →
      (first.toggle category' value').staged.get each =
        (second.toggle category' value').staged.get each := by
    intro each away
    rw [get_staged_toggle, get_staged_toggle, ahead.others each away]
  by_cases same : category' = category
  · subst same
    have differs : value ≠ value' := fun equal => other (equal ▸ rfl)
    refine ⟨ahead.committed, others, ?_, ?_⟩
    · rw [get_staged_toggle, if_pos rfl, Selections.mem_flip_of_ne differs]
      exact ahead.mem
    · rw [get_staged_toggle, get_staged_toggle, if_pos rfl, if_pos rfl,
        Selections.erase_flip differs ahead.mem, ahead.erase]
  · have stays (panel : Panel) :
        (panel.toggle category' value').staged.get category = panel.staged.get category := by
      rw [get_staged_toggle, if_neg (Ne.symm same)]
    refine ⟨ahead.committed, others, ?_, ?_⟩
    · rw [stays]
      exact ahead.mem
    · rw [stays, stays]
      exact ahead.erase

theorem toggleAll (ahead : Ahead category value first second) {toggles : List (Category × String)}
    (others : (category, value) ∉ toggles) :
    Ahead category value (first.toggleAll toggles) (second.toggleAll toggles) := by
  induction toggles generalizing first second with
  | nil => exact ahead
  | cons pair rest ih =>
    rw [List.mem_cons, not_or] at others
    exact ih (ahead.toggle (Ne.symm others.1)) others.2

/-- **Toggling the value makes the two equal.** -/
theorem toggle_self (ahead : Ahead category value first second) :
    first.toggle category value = second := by
  have staged : (first.toggle category value).staged = second.staged := by
    refine Selections.eq_of_get fun other => ?_
    rw [get_staged_toggle]
    split
    · next same =>
      rw [same, Selections.flip, if_pos ahead.mem, ahead.erase]
    · next differs => exact ahead.others other differs
  have committed : (first.toggle category value).committed = second.committed := ahead.committed
  cases second
  simp_all [Panel.toggle]

end Ahead

/-- **A toggle is taken back exactly, however late.** A value that is not staged is toggled, then anything
else is, and then the value again. The sidebar is the one that the toggles in between make of the first: it
has the same values staged, in the same order, and the same in force. -/
theorem toggle_toggleAll_toggle {panel : Panel} (absent : value ∉ panel.staged.get category)
    {toggles : List (Category × String)} (others : (category, value) ∉ toggles) :
    ((panel.toggle category value).toggleAll toggles).toggle category value =
      panel.toggleAll toggles :=
  ((ahead_toggle absent).toggleAll others).toggle_self

/-- Two services are in force. -/
def twoServices : Panel := .ofSelections { services := ["ssh", "http"] }

/-- One of them is toggled away and back again, so that it goes to the end, and a third is toggled. -/
def crossing : List (Category × String) :=
  [(.services, "ssh"), (.countries, "ftp"), (.services, "ssh"), (.services, "smtp")]

theorem toggle_toggleAll_toggle_crossing :
    "ftp" ∉ twoServices.staged.get .services ∧ (Category.services, "ftp") ∉ crossing ∧
      ((twoServices.toggle .services "ftp").toggleAll crossing).staged =
        { countries := ["ftp"], services := ["http", "ftp", "ssh", "smtp"] } ∧
      (((twoServices.toggle .services "ftp").toggleAll crossing).toggle .services "ftp").staged =
        { countries := ["ftp"], services := ["http", "ssh", "smtp"] } := by
  have absent : "ftp" ∉ twoServices.staged.get .services := by decide
  have others : (Category.services, "ftp") ∉ crossing := by decide
  refine ⟨absent, others, by decide, ?_⟩
  rw [toggle_toggleAll_toggle absent others]
  decide

end Panel

end HostDashboard
