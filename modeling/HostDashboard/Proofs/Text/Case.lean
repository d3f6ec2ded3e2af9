/-
**Texts that differ in the case of ASCII letters only.**

A capital letter of ASCII stands 32 places before its small letter, and no other character has a case
(`toNat_toLower`). So two characters have the same small letter exactly if they are equal or one is the capital of the
other (`sameLetter_iff`), and two texts exactly if this holds of their characters one by one (`sameLetters_iff`).
-/

import Mathlib.Data.List.Forall2

namespace HostDashboard.Text

theorem isUpper_iff {c : Char} : c.isUpper = true ↔ 65 ≤ c.toNat ∧ c.toNat ≤ 90 := decide_eq_true_iff

theorem toNat_toLower (c : Char) : c.toLower.toNat = if c.isUpper = true then c.toNat + 32 else c.toNat := by
  unfold Char.toLower
  split
  · next upper =>
    have le : c.val.toNat ≤ 90 := upper.2
    rw [if_pos (isUpper_iff.mpr upper)]
    show (c.val + 32).toNat = c.toNat + 32
    rw [UInt32.toNat_add]
    exact Nat.mod_eq_of_lt (Nat.lt_of_le_of_lt (Nat.add_le_add_right le 32) (by decide))
  · next other => rw [if_neg fun upper => other (isUpper_iff.mp upper)]

/-- A character is its own small letter, or the capital of it. -/
theorem eq_or_capital_of_toLower {c d : Char} (same : c.toLower = d) :
    c = d ∨ c.isUpper = true ∧ c = Char.ofNat (d.toNat - 32) := by
  subst same
  by_cases upper : c.isUpper = true
  · refine .inr ⟨upper, ?_⟩
    rw [toNat_toLower, if_pos upper, Nat.add_sub_cancel, Char.ofNat_toNat]
  · refine .inl (Char.toNat_inj.mp ?_)
    rw [toNat_toLower, if_neg upper]

/-- A letter of ASCII and its capital. -/
def HasCapital (small capital : Char) : Prop := capital.isUpper = true ∧ small.toNat = capital.toNat + 32

/-- Two characters differ at most in the case of an ASCII letter. -/
def SameLetter (c d : Char) : Prop := c = d ∨ HasCapital c d ∨ HasCapital d c

theorem sameLetter_iff {c d : Char} : SameLetter c d ↔ c.toLower = d.toLower := by
  unfold SameLetter HasCapital
  rw [← Char.toNat_inj, ← Char.toNat_inj, toNat_toLower, toNat_toLower]
  simp only [isUpper_iff]
  split_ifs <;> omega

/-- Two texts differ at most in the case of ASCII letters. -/
def SameLetters (first second : List Char) : Prop := List.Forall₂ SameLetter first second

theorem sameLetters_iff {first second : List Char} :
    SameLetters first second ↔ first.map Char.toLower = second.map Char.toLower := by
  have alike : SameLetter = fun c d => c.toLower = d.toLower := funext₂ fun _ _ => propext sameLetter_iff
  rw [SameLetters, alike, ← List.forall₂_eq_eq_eq, List.forall₂_map_left_iff, List.forall₂_map_right_iff]

end HostDashboard.Text
