/-
**Which autonomous systems are shown, and which are counted.**

The sidebar shows the numbers that stand before the first dash of a composite key, in increasing order and each
once (`asnNumbers_increasing`, `mem_asnNumbers_iff`). The reader of those numbers takes zeros and a plus sign in
front, and a key without a dash as a whole (`Reads`); the look-up of counts takes only a key that begins with the
plain digits and a dash (`BeginsWith`).

So every number that has a count is shown (`mem_asnNumbers_of_beginsWith`), but a number may be shown that has
none, though its key has (`shown_without_count`). The two agree just if every number that some key reads also
has a key in the plain form (`asn_options_counted_iff`).
-/

import HostDashboard.Proofs.Facets.AsnCount

namespace HostDashboard.Counts

/-! ### Numbers in increasing order -/

theorem mem_placeNumber {number other : Nat} {numbers : List Nat} :
    other ∈ placeNumber number numbers ↔ other = number ∨ other ∈ numbers := by
  induction numbers with
  | nil => simp [placeNumber]
  | cons next rest ih =>
    rw [placeNumber]
    split
    · exact List.mem_cons
    · split
      · next same => simp [same]
      · rw [List.mem_cons, ih, List.mem_cons, or_left_comm]

theorem placeNumber_increasing (number : Nat) {numbers : List Nat} (increasing : numbers.Pairwise (· < ·)) :
    (placeNumber number numbers).Pairwise (· < ·) := by
  induction numbers with
  | nil => exact List.pairwise_singleton _ _
  | cons next rest ih =>
    obtain ⟨above, tail⟩ := List.pairwise_cons.mp increasing
    rw [placeNumber]
    split
    · next before =>
      refine List.pairwise_cons.mpr ⟨fun other member => ?_, increasing⟩
      rcases List.mem_cons.mp member with rfl | later
      · exact before
      · exact Nat.lt_trans before (above other later)
    · split
      · exact increasing
      · refine List.pairwise_cons.mpr ⟨fun other member => ?_, ih tail⟩
        rcases mem_placeNumber.mp member with rfl | later
        · omega
        · exact above other later

theorem mem_increasing {number : Nat} {numbers : List Nat} :
    number ∈ increasing numbers ↔ number ∈ numbers := by
  induction numbers with
  | nil => exact Iff.rfl
  | cons first rest ih => rw [increasing, List.foldr_cons, mem_placeNumber, List.mem_cons, ← ih, increasing]

theorem increasing_pairwise (numbers : List Nat) : (increasing numbers).Pairwise (· < ·) := by
  induction numbers with
  | nil => exact List.Pairwise.nil
  | cons first rest ih => exact placeNumber_increasing first ih

/-! ### Numbers in keys -/

/-- What stands before the first dash of a key, or the whole key if it has none, is read as the number: its
digits, with zeros in front or not, after a plus sign or not. -/
def Reads (number : Nat) (key : String) : Prop :=
  ∃ sign zeros, (sign = [] ∨ sign = ['+']) ∧
    key.toList.takeWhile (· ≠ '-') = sign ++ (List.replicate zeros '0' ++ Decimal.digits number)

/-- The key begins with the number in decimal digits and a dash. -/
def BeginsWith (number : Nat) (key : String) : Prop := Decimal.digits number ++ ['-'] <+: key.toList

instance (number : Nat) (key : String) : Decidable (BeginsWith number key) :=
  decidable_of_iff _ List.isPrefixOf_iff_prefix

variable {counts : Counts} {number : Nat} {key : String}

theorem keyNumber?_eq_some_iff : keyNumber? key = some number ↔ Reads number key ∧ number < Nat.pow 2 32 := by
  rw [keyNumber?, Decimal.readUnsigned?_eq_some_iff, Text.cut_fst]
  rfl

theorem beginsWith_iff : BeginsWith number key ↔ KeyOf number key :=
  Text.append_singleton_prefix_iff (Decimal.notMem_digits (by decide) number) key.toList

theorem BeginsWith.reads (begins : BeginsWith number key) : Reads number key :=
  ⟨[], 0, .inl rfl, (beginsWith_iff.mp begins).2⟩

theorem asnNumbers_increasing (counts : Counts) : counts.asnNumbers.Pairwise (· < ·) :=
  increasing_pairwise _

theorem mem_asnNumbers_iff :
    number ∈ counts.asnNumbers ↔
      (∃ key ∈ counts.asns.keys, Reads number key) ∧ number < Nat.pow 2 32 := by
  rw [asnNumbers, mem_increasing, List.mem_filterMap]
  simp only [keyNumber?_eq_some_iff, ← and_assoc, exists_and_right]

/-- **Every number that has a count is shown.** -/
theorem mem_asnNumbers_of_beginsWith (fits : number < Nat.pow 2 32) (inside : key ∈ counts.asns.keys)
    (begins : BeginsWith number key) : number ∈ counts.asnNumbers :=
  mem_asnNumbers_iff.mpr ⟨⟨key, inside, begins.reads⟩, fits⟩

theorem show_mem_options_iff : Asn.show number ∈ counts.options .asns ↔ number ∈ counts.asnNumbers :=
  List.mem_map_of_injective Asn.show_injective

theorem keyedCount?_isSome_iff :
    (counts.keyedCount? number).isSome = true ↔ ∃ key ∈ counts.asns.keys, BeginsWith number key := by
  rw [Option.isSome_iff_ne_none, Ne, keyedCount?_eq_none_iff]
  simp only [beginsWith_iff, not_forall, not_not, exists_prop]

/-- **The autonomous systems that are shown, and those that are counted.** The options are the texts of
increasing numbers. A number is shown just if it is read in front of the first dash of some key; its count is
read from a key just if some key begins with its digits and a dash, and then it is shown. So a number is shown
just if it is counted, for all numbers, exactly if every number that is read in some key also begins a key. -/
theorem asn_options_counted_iff (counts : Counts) :
    (∃ numbers : List Nat, counts.options .asns = numbers.map Asn.show ∧ numbers.Pairwise (· < ·) ∧
      ∀ number ∈ numbers, number < Nat.pow 2 32) ∧
    (∀ number < Nat.pow 2 32,
      (Asn.show number ∈ counts.options .asns ↔ ∃ key ∈ counts.asns.keys, Reads number key) ∧
      ((counts.asnKeyedCount? (Asn.show number)).isSome = true ↔
        ∃ key ∈ counts.asns.keys, BeginsWith number key) ∧
      ((counts.asnKeyedCount? (Asn.show number)).isSome = true →
        Asn.show number ∈ counts.options .asns)) ∧
    ((∀ number < Nat.pow 2 32, Asn.show number ∈ counts.options .asns ↔
        ∃ key ∈ counts.asns.keys, BeginsWith number key) ↔
      ∀ key ∈ counts.asns.keys, ∀ number < Nat.pow 2 32, Reads number key →
        ∃ plain ∈ counts.asns.keys, BeginsWith number plain) := by
  have shown {number : Nat} (fits : number < Nat.pow 2 32) :
      Asn.show number ∈ counts.options .asns ↔ ∃ key ∈ counts.asns.keys, Reads number key := by
    rw [show_mem_options_iff, mem_asnNumbers_iff, and_iff_left fits]
  have found {number : Nat} (fits : number < Nat.pow 2 32) :
      (counts.asnKeyedCount? (Asn.show number)).isSome = true ↔
        ∃ key ∈ counts.asns.keys, BeginsWith number key := by
    rw [asnKeyedCount?_of_ok (Asn.parse_show fits), keyedCount?_isSome_iff]
  have counted {number : Nat} : (∃ key ∈ counts.asns.keys, BeginsWith number key) →
      ∃ key ∈ counts.asns.keys, Reads number key := fun ⟨key, inside, begins⟩ =>
    ⟨key, inside, begins.reads⟩
  refine ⟨⟨counts.asnNumbers, rfl, asnNumbers_increasing counts, fun number member =>
    (mem_asnNumbers_iff.mp member).2⟩, fun number fits => ⟨shown fits, found fits, fun some =>
    (shown fits).mpr (counted ((found fits).mp some))⟩, ?_⟩
  constructor
  · intro agree key inside number fits reads
    exact (agree number fits).mp ((shown fits).mpr ⟨key, inside, reads⟩)
  · intro plain number fits
    rw [shown fits]
    exact ⟨fun ⟨key, inside, reads⟩ => plain key inside number fits reads, counted⟩

/-- Every number that is read in a crowd of keys also begins one of them. -/
theorem asn_options_counted_iff_crowded :
    (∀ key ∈ crowded.asns.keys, ∀ number < Nat.pow 2 32, Reads number key →
        ∃ plain ∈ crowded.asns.keys, BeginsWith number plain) ∧
      (∀ number < Nat.pow 2 32, Asn.show number ∈ crowded.options .asns ↔
        ∃ key ∈ crowded.asns.keys, BeginsWith number key) ∧
      Asn.show 3320 ∈ crowded.options .asns := by
  obtain ⟨_, shown, agree⟩ := asn_options_counted_iff crowded
  have plain : ∀ key ∈ crowded.asns.keys, ∀ number < Nat.pow 2 32, Reads number key →
      ∃ plain ∈ crowded.asns.keys, BeginsWith number plain := by
    intro key inside number fits reads
    have few : ∀ key ∈ crowded.asns.keys, ∀ number ∈ keyNumber? key,
        ∃ plain ∈ crowded.asns.keys, BeginsWith number plain := by decide +kernel
    exact few key inside number (keyNumber?_eq_some_iff.mpr ⟨reads, fits⟩)
  have found : (crowded.asnKeyedCount? (Asn.show 3320)).isSome = true := by decide +kernel
  exact ⟨plain, agree.mpr plain, (shown 3320 (by decide)).2.2 found⟩

/-- A key with a zero in front of its number, and a key without an organization. -/
def oddlyKeyed : Counts where
  asns := .ofList [("03320-Deutsche Telekom AG", 5), ("15169", 7)]

/-- **A number is shown though no key begins with it**, and counts zero though its key has a count. -/
theorem shown_without_count :
    oddlyKeyed.options .asns = [Asn.show 3320, Asn.show 15169] ∧
      (∀ key ∈ oddlyKeyed.asns.keys, ¬ BeginsWith 3320 key ∧ ¬ BeginsWith 15169 key) ∧
      oddlyKeyed.asnCount (Asn.show 3320) = 0 ∧ oddlyKeyed.asnCount (Asn.show 15169) = 0 ∧
      ¬ ∀ (counts : Counts) (number : Nat), number < Nat.pow 2 32 →
        (Asn.show number ∈ counts.options .asns ↔ ∃ key ∈ counts.asns.keys, BeginsWith number key) := by
  have options : oddlyKeyed.options .asns = [Asn.show 3320, Asn.show 15169] := by decide +kernel
  have none : ∀ key ∈ oddlyKeyed.asns.keys, ¬ BeginsWith 3320 key ∧ ¬ BeginsWith 15169 key := by
    decide +kernel
  refine ⟨options, none, by decide +kernel, by decide +kernel, fun agree => ?_⟩
  obtain ⟨key, inside, begins⟩ := (agree oddlyKeyed 3320 (by decide)).mp (options ▸ List.mem_cons_self)
  exact (none key inside).1 begins

end HostDashboard.Counts
