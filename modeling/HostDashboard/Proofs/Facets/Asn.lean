/-
**Reading and showing the numbers of autonomous systems.**

A text is read as what stands in it without the blanks around it and the letters in front: one or more digits
(`Decimal.read?_eq_some_iff`) of a number below 2 ^ 32 (`parse_eq_ok_iff`). So a number that is shown is read
again (`parse_show`), and no two numbers are shown alike (`show_injective`).
-/

import HostDashboard.Facets.Counts
import HostDashboard.Proofs.Decimal.Natural
import HostDashboard.Proofs.Text.Pieces

namespace HostDashboard

theorem Text.isBlank_of_isDigit {c : Char} (digit : c.isDigit = true) : isBlank c = false := by
  have zero : '0'.toNat = 48 := rfl
  have bounds := Decimal.toNat_of_isDigit digit
  simp only [isBlank, inRanges, blankRanges, List.any_cons, List.any_nil, Bool.or_false, Bool.or_eq_false_iff,
    Bool.and_eq_false_iff, decide_eq_false_iff_not]
  omega

namespace Asn

theorem show_injective : Function.Injective «show» := by
  intro first second same
  have texts : 'A' :: 'S' :: Decimal.digits first = 'A' :: 'S' :: Decimal.digits second :=
    String.ofList_injective same
  exact Decimal.digits_injective (List.cons.inj (List.cons.inj texts).2).2

theorem parse_eq_ok_iff {shown : String} {number : Nat} :
    parse shown = .ok number ↔
      Decimal.read? (withoutLetters (Text.trim shown.toList)) = some number ∧ number < Nat.pow 2 32 := by
  unfold parse read
  cases Decimal.read? (withoutLetters (Text.trim shown.toList)) with
  | none => simp
  | some value =>
    by_cases small : value < Nat.pow 2 32
    · simp only [if_pos small, Except.ok.injEq, Option.some.injEq, iff_self_and]
      exact fun same => same ▸ small
    · simp only [if_neg small, reduceCtorEq, Option.some.injEq, false_iff, not_and]
      exact fun same => same ▸ small

theorem lt_of_parse {shown : String} {number : Nat} (parsed : parse shown = .ok number) :
    number < Nat.pow 2 32 :=
  (parse_eq_ok_iff.mp parsed).2

/-- **A number that is shown is read again.** -/
theorem parse_show {number : Nat} (fits : number < Nat.pow 2 32) : parse («show» number) = .ok number := by
  have notBlank : ∀ c ∈ 'A' :: 'S' :: Decimal.digits number, Text.isBlank c = false := by
    intro c member
    rcases List.mem_cons.mp member with rfl | member
    · decide
    rcases List.mem_cons.mp member with rfl | digit
    · decide
    · exact Text.isBlank_of_isDigit (Decimal.isDigit_of_mem_digits digit)
  have digits : withoutLetters (Text.trim («show» number).toList) = Decimal.digits number := by
    rw [«show», String.toList_ofList, (Text.trim_eq_self_iff _).mpr (Text.unpadded_of_notBlank notBlank)]
    rfl
  rw [parse_eq_ok_iff, digits]
  exact ⟨Decimal.read?_digits number, fits⟩

end Asn

end HostDashboard
