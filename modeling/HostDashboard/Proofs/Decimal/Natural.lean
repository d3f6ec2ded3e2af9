/-
**Writing whole numbers and reading them again.**

`digits` writes a number without needless zeros (`head?_digits`), and its digits are read as the number
(`read?_digits`). Every text of digits is some zeros and the digits of its value (`exists_zeros`), so the texts
that are read as a number are its digits behind any zeros (`read?_eq_some_iff_zeros`), and with a sign allowed
also behind a plus sign (`readUnsigned?_eq_some_iff`).
-/

import HostDashboard.Decimal.Natural
import Mathlib.Data.List.Induction

namespace HostDashboard.Decimal

/-! ### Digits -/

theorem value_eq_ofDigitChars (ds : List Char) : value ds = Nat.ofDigitChars 10 ds 0 := by
  simp only [value, Nat.ofDigitChars_eq_foldl, Nat.mul_comm]

@[simp] theorem value_digits (n : Nat) : value (digits n) = n := by
  rw [value_eq_ofDigitChars, digits, Nat.ofDigitChars_ten_toDigits]

theorem isDigit_of_mem_digits {n : Nat} {c : Char} (member : c ∈ digits n) : c.isDigit = true :=
  Nat.isDigit_of_mem_toDigits (by decide) (by decide) member

theorem digits_ne_nil (n : Nat) : digits n ≠ [] := Nat.toDigits_ne_nil

/-- The digits of a number other than zero begin with another digit than zero. -/
theorem head?_digits {n : Nat} (positive : 0 < n) : (digits n).head? ≠ some '0' := by
  unfold digits
  induction n using Nat.strongRecOn with
  | ind n ih =>
    by_cases one : n < 10
    · rw [Nat.toDigits_of_lt_base one]
      have each : ∀ n : Fin 10, 0 < n.val → [n.val.digitChar].head? ≠ some '0' := by decide
      exact each ⟨n, one⟩ positive
    · rw [Nat.toDigits_of_base_le (by decide) (by omega), List.head?_append]
      have inner := ih (n / 10) (by omega) (by omega)
      cases found : (Nat.toDigits 10 (n / 10)).head? with
      | none => exact absurd (List.head?_eq_none_iff.mp found) Nat.toDigits_ne_nil
      | some c => rwa [found] at inner

theorem signedDigits_eq_cons (i : Int) :
    ∃ c others, signedDigits i = c :: others ∧ (c = '-' ∨ c.isDigit = true) ∧
      ∀ digit ∈ others, digit.isDigit = true := by
  unfold signedDigits
  split
  · exact ⟨'-', _, rfl, .inl rfl, fun digit member => isDigit_of_mem_digits member⟩
  · obtain ⟨c, others, written⟩ := List.exists_cons_of_ne_nil (digits_ne_nil i.natAbs)
    have all : ∀ digit ∈ c :: others, digit.isDigit = true := by
      rw [← written]
      exact fun digit member => isDigit_of_mem_digits member
    obtain ⟨first, later⟩ := List.forall_mem_cons.mp all
    exact ⟨c, others, written, .inr first, later⟩

/-! ### Reading -/

theorem digits_injective : Function.Injective digits := by
  intro first second same
  rw [← value_digits first, same, value_digits]

theorem notMem_digits {c : Char} (other : c.isDigit = false) (n : Nat) : c ∉ digits n := by
  intro member
  rw [isDigit_of_mem_digits member] at other
  cases other

theorem read?_eq_some_iff {ds : List Char} {n : Nat} :
    read? ds = some n ↔ ds ≠ [] ∧ (∀ c ∈ ds, c.isDigit = true) ∧ value ds = n := by
  unfold read?
  by_cases written : ds ≠ [] ∧ ∀ c ∈ ds, c.isDigit = true
  · have good : (ds.isEmpty || !ds.all Char.isDigit) = false := by simpa using written
    rw [good, if_neg Bool.false_ne_true, Option.some.injEq]
    exact ⟨fun same => ⟨written.1, written.2, same⟩, fun whole => whole.2.2⟩
  · have bad : (ds.isEmpty || !ds.all Char.isDigit) = true := by
      simpa [Classical.or_iff_not_imp_left] using written
    rw [if_pos bad]
    exact ⟨nofun, fun whole => absurd ⟨whole.1, whole.2.1⟩ written⟩

theorem read?_digits (n : Nat) : read? (digits n) = some n :=
  read?_eq_some_iff.mpr ⟨digits_ne_nil n, fun _ member => isDigit_of_mem_digits member, value_digits n⟩

/-! ### Zeros in front -/

theorem toNat_of_isDigit {d : Char} (digit : d.isDigit = true) :
    '0'.toNat ≤ d.toNat ∧ d.toNat < '0'.toNat + 10 := by
  have zero : '0'.toNat = 48 := rfl
  have bounds : 48 ≤ d.toNat ∧ d.toNat ≤ 57 := by
    simpa [Char.isDigit, UInt32.le_iff_toNat_le] using digit
  omega

theorem digits_of_isDigit {d : Char} (digit : d.isDigit = true) : digits (d.toNat - '0'.toNat) = [d] := by
  obtain ⟨low, high⟩ := toNat_of_isDigit digit
  have small : d.toNat - '0'.toNat < 10 := by omega
  have zero : '0'.toNat = 48 := rfl
  rw [digits, Nat.toDigits_of_lt_base small, List.singleton_inj, ← Char.toNat_inj,
    Nat.toNat_digitChar_of_lt_ten small]
  omega

theorem value_concat (ds : List Char) (d : Char) :
    value (ds ++ [d]) = value ds * 10 + (d.toNat - '0'.toNat) := by
  simp only [value, List.foldl_append, List.foldl_cons, List.foldl_nil]

theorem value_zeros (zeros n : Nat) : value (List.replicate zeros '0' ++ digits n) = n := by
  rw [value_eq_ofDigitChars, Nat.ofDigitChars_append, Nat.ofDigitChars_replicate_zero, Nat.mul_zero,
    ← value_eq_ofDigitChars, value_digits]

theorem isDigit_of_mem_zeros {zeros n : Nat} {c : Char}
    (member : c ∈ List.replicate zeros '0' ++ digits n) : c.isDigit = true := by
  rcases List.mem_append.mp member with zero | digit
  · rw [List.eq_of_mem_replicate zero]
    rfl
  · exact isDigit_of_mem_digits digit

/-- One more digit at the end of zeros and a number: the number grows, or was a zero itself. -/
theorem exists_zeros_concat (zeros n : Nat) {d : Char} (digit : d.isDigit = true) :
    ∃ others, List.replicate zeros '0' ++ digits n ++ [d] =
      List.replicate others '0' ++ digits (n * 10 + (d.toNat - '0'.toNat)) := by
  obtain ⟨low, high⟩ := toNat_of_isDigit digit
  rcases Nat.eq_zero_or_pos n with rfl | positive
  · refine ⟨zeros + 1, ?_⟩
    rw [Nat.zero_mul, Nat.zero_add, digits_of_isDigit digit, List.replicate_succ']
    rfl
  · refine ⟨zeros, ?_⟩
    rw [Nat.mul_comm, List.append_assoc, ← digits_of_isDigit digit]
    exact congrArg _ (Nat.toDigits_append_toDigits (by decide) positive (by omega))

/-- **A text of digits is some zeros and the digits of its value.** -/
theorem exists_zeros {ds : List Char} (nonempty : ds ≠ []) (all : ∀ c ∈ ds, c.isDigit = true) :
    ∃ zeros, ds = List.replicate zeros '0' ++ digits (value ds) := by
  induction ds using List.reverseRecOn with
  | nil => exact absurd rfl nonempty
  | append_singleton front d ih =>
    have digit := all d (List.mem_append_right _ List.mem_cons_self)
    -- Of a single digit no zero is put in front, also if it is a zero itself.
    by_cases only : front = []
    · refine ⟨0, ?_⟩
      rw [value_concat, only]
      show [d] = digits (0 * 10 + (d.toNat - '0'.toNat))
      rw [Nat.zero_mul, Nat.zero_add, digits_of_isDigit digit]
    · obtain ⟨zeros, written⟩ := ih only fun c member => all c (List.mem_append_left _ member)
      rw [value_concat]
      generalize value front = n at written
      subst written
      exact exists_zeros_concat zeros n digit

/-- **The texts that are read as a number** are its digits behind any zeros. -/
theorem read?_eq_some_iff_zeros {ds : List Char} {n : Nat} :
    read? ds = some n ↔ ∃ zeros, ds = List.replicate zeros '0' ++ digits n := by
  rw [read?_eq_some_iff]
  constructor
  · rintro ⟨nonempty, all, rfl⟩
    exact exists_zeros nonempty all
  · rintro ⟨zeros, rfl⟩
    exact ⟨List.append_ne_nil_of_right_ne_nil _ (digits_ne_nil n), fun _ => isDigit_of_mem_zeros,
      value_zeros zeros n⟩

/-- **A plus sign may stand in front**, and the number must fit. -/
theorem readUnsigned?_eq_some_iff {bits : Nat} {ds : List Char} {n : Nat} :
    readUnsigned? bits ds = some n ↔
      (∃ sign zeros, (sign = [] ∨ sign = ['+']) ∧ ds = sign ++ (List.replicate zeros '0' ++ digits n)) ∧
        n < Nat.pow 2 bits := by
  unfold readUnsigned?
  rw [Option.filter_eq_some_iff, read?_eq_some_iff_zeros, decide_eq_true_iff]
  refine and_congr_left fun _ => ?_
  constructor
  · rintro ⟨zeros, written⟩
    split at written
    · exact ⟨['+'], zeros, .inr rfl, congrArg _ written⟩
    · exact ⟨[], zeros, .inl rfl, written⟩
  · rintro ⟨sign, zeros, rfl | rfl, rfl⟩
    · refine ⟨zeros, ?_⟩
      split
      · next rest plus =>
        have member : '+' ∈ List.replicate zeros '0' ++ digits n := plus ▸ List.mem_cons_self
        cases isDigit_of_mem_zeros member
      · rfl
    · exact ⟨zeros, rfl⟩

end HostDashboard.Decimal
