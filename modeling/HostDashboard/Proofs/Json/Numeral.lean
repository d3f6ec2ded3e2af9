/-
**A whole number is read as it was written.**

The digits of a number have no needless zero in front, so they are a numeral, and one of 64 bits keeps its
value. Numbers out of that range would be read as doubles (`Number.IsWord` leaves them out).
-/

import HostDashboard.Json.Numeral
import HostDashboard.Proofs.Decimal.Natural
import Mathlib.Data.List.TakeWhile

namespace HostDashboard

namespace Json

/-- A whole number of 64 bits, with a sign or without. -/
def Number.IsWord : Number → Prop
  | .int i => -(Nat.pow 2 63 : Int) ≤ i ∧ i < (Nat.pow 2 64 : Int)
  | .real _ => False

instance (n : Number) : Decidable n.IsWord :=
  match n with
  | .int i => inferInstanceAs (Decidable (-(Nat.pow 2 63 : Int) ≤ i ∧ i < (Nat.pow 2 64 : Int)))
  | .real _ => inferInstanceAs (Decidable False)

namespace Numeral

theorem whole?_digits (n : Nat) : whole? (Decimal.digits n) = some (Decimal.digits n, []) := by
  by_cases zero : n = 0
  · subst zero
    rfl
  have front := Decimal.head?_digits (Nat.pos_of_ne_zero zero)
  have allDigits : ∀ c ∈ Decimal.digits n, c.isDigit = true :=
    fun c member => Decimal.isDigit_of_mem_digits member
  have first : whole? (Decimal.digits n) = digits1? (Decimal.digits n) := by
    unfold whole?
    split
    · next rest same =>
      rw [same] at front
      exact absurd rfl front
    · rfl
  rw [first, digits1?, List.takeWhile_eq_self_iff.mpr allDigits,
    List.dropWhile_eq_nil_iff.mpr allDigits]
  split
  · next none => exact absurd none (Decimal.digits_ne_nil n)
  · rfl

theorem parse?_signedDigits (i : Int) :
    parse? (Decimal.signedDigits i) =
      some ⟨decide (i < 0), Decimal.digits i.natAbs, none, none⟩ := by
  by_cases negative : i < 0
  · rw [Decimal.signedDigits, if_pos negative, decide_eq_true negative]
    show (whole? (Decimal.digits i.natAbs)).bind _ = _
    rw [whole?_digits]
    rfl
  · have noSign : ∀ rest, Decimal.digits i.natAbs = '-' :: rest → False := by
      intro rest same
      have : ('-' : Char).isDigit = true :=
        Decimal.isDigit_of_mem_digits (same ▸ List.mem_cons_self)
      exact absurd this (by decide)
    rw [Decimal.signedDigits, if_neg negative, decide_eq_false negative]
    unfold parse?
    simp only [whole?_digits]
    rfl

/-- **A whole number of 64 bits has its own value.** -/
theorem value?_digits {i : Int} (word : (Number.int i).IsWord) :
    value? ⟨decide (i < 0), Decimal.digits i.natAbs, none, none⟩ = some (.int i) := by
  obtain ⟨low, high⟩ := word
  have pow63 : Nat.pow 2 63 = 9223372036854775808 := rfl
  have pow64 : Nat.pow 2 64 = 18446744073709551616 := rfl
  rw [pow63] at low
  rw [pow64] at high
  unfold value?
  dsimp only
  rw [Decimal.value_digits, pow63, pow64]
  by_cases negative : i < 0
  · have same : -(i.natAbs : Int) = i := by omega
    rw [decide_eq_true negative, if_neg (by simp), if_pos ⟨rfl, by omega, by omega⟩, same]
  · have same : (i.natAbs : Int) = i := by omega
    rw [decide_eq_false negative, if_pos ⟨rfl, by omega⟩, same]

end Numeral

end Json

end HostDashboard
