/-
**Computing with words of 64 bits.**

A machine has a word for every number below two to the power of 64. A sum, a difference or a product that is none of
these numbers stops the computation with a fault, and so do a division by zero, bounds that are crossed, and a part
that reaches beyond its list.

* `word_eq_ok_iff`: a number has a word exactly if it is the number of that word, so an operation never gives
  another number than the exact one;
* `Ends`: a computation comes to its end, with a result that has a property. It is followed one operation after the
  other by `Ends.bind`, with one lemma for each operation (`add_ends` to `part_ends`);
* `toInt_toInt64`, `toNat_toUInt64`: a word is read with a sign and back without a change of its number, if that
  number is in the lower half.
-/

import Mathlib.Algebra.Order.Ring.Int

namespace HostDashboard.Machine

/-- What stops a computation. -/
inductive Fault where
  /-- There is no word for a number. -/
  | overflow
  | divisionByZero
  /-- The least value that is allowed is above the greatest one. -/
  | crossedBounds
  /-- A part begins or ends where its list does not reach. -/
  | outside
  deriving DecidableEq, Repr

/-- The word for a number. -/
def word (number : Int) : Except Fault UInt64 :=
  if 0 ≤ number ∧ number < UInt64.size then .ok (.ofNat number.toNat) else .error .overflow

def add (first second : UInt64) : Except Fault UInt64 := word (first.toNat + second.toNat)

def sub (first second : UInt64) : Except Fault UInt64 := word (first.toNat - second.toNat)

def mul (first second : UInt64) : Except Fault UInt64 := word (first.toNat * second.toNat)

/-- The quotient without its fraction. -/
def div (first second : UInt64) : Except Fault UInt64 :=
  if second = 0 then .error .divisionByZero else .ok (first / second)

/-- The value between two bounds that is nearest to a given one. -/
def clamp (value least greatest : Int64) : Except Fault Int64 :=
  if greatest < least then .error .crossedBounds
  else .ok (if value < least then least else if greatest < value then greatest else value)

/-- The part of a list between two places. -/
def part {α : Type} (items : List α) (first last : UInt64) : Except Fault (List α) :=
  if first ≤ last ∧ last.toNat ≤ items.length then .ok ((items.take last.toNat).drop first.toNat)
  else .error .outside

/-- **The word for a number has that number**, and every number of a word has one. -/
theorem word_eq_ok_iff {number : Int} {result : UInt64} :
    word number = .ok result ↔ (result.toNat : Int) = number := by
  unfold word
  split
  · next fits =>
    have number_lt : number.toNat < UInt64.size := by omega
    rw [Except.ok.injEq, ← UInt64.toNat_inj, UInt64.toNat_ofNat_of_lt' number_lt]
    omega
  · next without =>
    have result_lt := result.toNat_lt_size
    refine iff_of_false nofun fun same => without ?_
    omega

/-! ### Computations that come to their end -/

/-- A computation comes to its end, and its result has a property. -/
def Ends {α : Type} (outcome : Except Fault α) (holds : α → Prop) : Prop :=
  ∃ result, outcome = .ok result ∧ holds result

section Ends

variable {α β : Type} {outcome : Except Fault α} {holds : α → Prop}

theorem Ends.ok {result : α} (has : holds result) : Ends (.ok result) holds := ⟨result, rfl, has⟩

/-- **One computation after the other.** -/
theorem Ends.bind (ends : Ends outcome holds) {next : α → Except Fault β} {after : β → Prop}
    (nextEnds : ∀ result, holds result → Ends (next result) after) : Ends (outcome >>= next) after := by
  obtain ⟨result, rfl, has⟩ := ends
  exact nextEnds result has

theorem Ends.mono (ends : Ends outcome holds) {weaker : α → Prop}
    (implies : ∀ result, holds result → weaker result) : Ends outcome weaker := by
  obtain ⟨result, same, has⟩ := ends
  exact ⟨result, same, implies result has⟩

theorem Ends.eq {result : α} (ends : Ends outcome (· = result)) : outcome = .ok result := by
  obtain ⟨_, same, rfl⟩ := ends
  exact same

end Ends

theorem word_ends {number : Int} (nonneg : 0 ≤ number) (number_lt : number < UInt64.size) :
    Ends (word number) fun result => (result.toNat : Int) = number := by
  have same : ((UInt64.ofNat number.toNat).toNat : Int) = number := by
    rw [UInt64.toNat_ofNat_of_lt' (by omega)]
    exact Int.toNat_of_nonneg nonneg
  exact ⟨_, word_eq_ok_iff.mpr same, same⟩

theorem add_ends (first second : UInt64) (fits : first.toNat + second.toNat < UInt64.size) :
    Ends (add first second) fun sum => sum.toNat = first.toNat + second.toNat :=
  (word_ends (by omega) (by omega)).mono fun _ exact => by omega

theorem sub_ends (first second : UInt64) (le : second.toNat ≤ first.toNat) :
    Ends (sub first second) fun difference => difference.toNat = first.toNat - second.toNat := by
  have first_lt := first.toNat_lt_size
  exact (word_ends (by omega) (by omega)).mono fun _ exact => by omega

theorem mul_ends (first second : UInt64) (fits : first.toNat * second.toNat < UInt64.size) :
    Ends (mul first second) fun product => product.toNat = first.toNat * second.toNat := by
  have product : ((first.toNat * second.toNat : Nat) : Int) = first.toNat * second.toNat :=
    Int.natCast_mul _ _
  exact (word_ends (by omega) (by omega)).mono fun _ exact => by omega

theorem div_ends (first : UInt64) {second : UInt64} (positive : 0 < second.toNat) :
    Ends (div first second) fun quotient => quotient.toNat = first.toNat / second.toNat := by
  have nonzero : second ≠ 0 := by
    rintro rfl
    exact absurd positive (Nat.lt_irrefl 0)
  exact ⟨first / second, if_neg nonzero, UInt64.toNat_div _ _⟩

theorem clamp_ends {least greatest : Int64} (ordered : least.toInt ≤ greatest.toInt) (value : Int64) :
    Ends (clamp value least greatest) fun nearest =>
      nearest.toInt = max least.toInt (min value.toInt greatest.toInt) := by
  have notCrossed : ¬ greatest < least := by
    rw [Int64.lt_iff_toInt_lt]
    omega
  refine ⟨_, if_neg notCrossed, ?_⟩
  simp only [Int64.lt_iff_toInt_lt]
  split_ifs <;> omega

theorem part_ends {α : Type} {items : List α} {first second : UInt64} (ordered : first.toNat ≤ second.toNat)
    (inside : second.toNat ≤ items.length) :
    Ends (part items first second) (· = (items.take second.toNat).drop first.toNat) :=
  ⟨_, if_pos ⟨UInt64.le_iff_toNat_le.mpr ordered, inside⟩, rfl⟩

/-! ### Words with a sign -/

/-- A word of the lower half is read with a sign as the same number. -/
theorem toInt_toInt64 {unsigned : UInt64} (low : 2 * unsigned.toNat < UInt64.size) :
    unsigned.toInt64.toInt = unsigned.toNat := by
  rw [← Int64.toInt_toBitVec, UInt64.toBitVec_toInt64, BitVec.toInt_eq_toNat_of_lt low]
  rfl

/-- A word that is not negative is read without a sign as the same number. -/
theorem toNat_toUInt64 {signed : Int64} (nonneg : 0 ≤ signed.toInt) :
    (signed.toUInt64.toNat : Int) = signed.toInt := by
  have number := BitVec.toInt_eq_toNat_cond signed.toBitVec
  have bounded := signed.toBitVec.isLt
  rw [Int64.toInt_toBitVec] at number
  split at number
  · exact number.symm
  · omega

end HostDashboard.Machine
