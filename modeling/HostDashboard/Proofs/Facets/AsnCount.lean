/-
**The count of an autonomous system is read from its own keys.**

A composite key is one of a number if the number, in decimal digits without needless zeros, is all that stands
before its first dash (`KeyOf`). The look-up takes the first key that begins with the number and a dash; that
is a key of the number and of no other (`isKeyOf_iff`), and as keys stand in the order of their octets, the
least one (`keyedCount?_eq_some_iff`).

So a shown text counts by the number that it denotes and by nothing else: every spelling of the number has the
same count, and keys of other numbers have no part in it (`asnCount_reads_own_keys`).
-/

import HostDashboard.Facets.Counts
import HostDashboard.Proofs.Dictionary
import HostDashboard.Proofs.Facets.Asn
import HostDashboard.Proofs.Text.Utf8

namespace HostDashboard.Counts

/-- What stands before the first dash of a key is the number in decimal digits. -/
def KeyOf (number : Nat) (key : String) : Prop :=
  '-' ∈ key.toList ∧ key.toList.takeWhile (· ≠ '-') = Decimal.digits number

instance (number : Nat) (key : String) : Decidable (KeyOf number key) :=
  inferInstanceAs (Decidable (_ ∧ _))

theorem isKeyOf_iff {number : Nat} {key : String} : isKeyOf number key = true ↔ KeyOf number key := by
  rw [isKeyOf, List.isPrefixOf_iff_prefix]
  exact Text.append_singleton_prefix_iff (Decimal.notMem_digits (by decide) number) key.toList

/-- The key and the count of a number. -/
def keyedCount? (counts : Counts) (number : Nat) : Option (String × Nat) :=
  counts.asns.entries.find? fun entry => isKeyOf number entry.1

/-- The key and the count of a shown text. -/
def asnKeyedCount? (counts : Counts) (shown : String) : Option (String × Nat) :=
  match Asn.parse shown with
  | .error _ => none
  | .ok number => counts.keyedCount? number

variable {counts : Counts} {shown : String} {number : Nat}

theorem asnKeyedCount?_of_ok (denotes : Asn.parse shown = .ok number) :
    counts.asnKeyedCount? shown = counts.keyedCount? number := by
  rw [asnKeyedCount?, denotes]

theorem asnCount_eq (counts : Counts) (shown : String) :
    counts.asnCount shown = ((counts.asnKeyedCount? shown).map Prod.snd).getD 0 := by
  unfold asnCount asnKeyedCount?
  cases Asn.parse shown <;> rfl

theorem asnCount_of_ok (denotes : Asn.parse shown = .ok number) :
    counts.asnCount shown = ((counts.keyedCount? number).map Prod.snd).getD 0 := by
  rw [asnCount_eq, asnKeyedCount?_of_ok denotes]

theorem asnCount_of_error {failure : Failure} (malformed : Asn.parse shown = .error failure) :
    counts.asnCount shown = 0 := by
  rw [asnCount, malformed]

theorem keyedCount?_eq_none_iff :
    counts.keyedCount? number = none ↔ ∀ key ∈ counts.asns.keys, ¬ KeyOf number key := by
  simp only [keyedCount?, List.find?_eq_none, Dictionary.keys, List.forall_mem_map, isKeyOf_iff]

/-- **The look-up finds the least key of the number.** -/
theorem keyedCount?_eq_some_iff {key : String} {count : Nat} :
    counts.keyedCount? number = some (key, count) ↔
      counts.asns.get? key = some count ∧ KeyOf number key ∧
        ∀ other ∈ counts.asns.keys, KeyOf number other → other ≠ key → key < other := by
  simp only [keyedCount?, Dictionary.find?_eq_some_iff, isKeyOf_iff]

/-- **Keys of other numbers have no part in the look-up.** -/
theorem keyedCount?_congr {other : Counts}
    (same : ∀ key, KeyOf number key → other.asns.get? key = counts.asns.get? key) :
    other.keyedCount? number = counts.keyedCount? number := by
  have keys {key : String} (own : KeyOf number key) : key ∈ other.asns.keys ↔ key ∈ counts.asns.keys := by
    rw [Dictionary.mem_keys_iff, Dictionary.mem_keys_iff, same key own]
  cases found : counts.keyedCount? number with
  | none =>
    rw [keyedCount?_eq_none_iff] at found ⊢
    exact fun key inside own => found key ((keys own).mp inside) own
  | some entry =>
    obtain ⟨key, count⟩ := entry
    rw [keyedCount?_eq_some_iff] at found ⊢
    obtain ⟨value, own, least⟩ := found
    exact ⟨(same key own).trans value, own, fun key inside own => least key ((keys own).mp inside) own⟩

/-- **The count of an autonomous system is read from its own keys.** A text that denotes no number counts
zero. One that denotes a number has the count of the least key of that number, in the order of octets, or zero
if there is no such key; any other text that denotes the number has the same count; and so it has among any
other counts that have the same keys of this number with the same values. -/
theorem asnCount_reads_own_keys (counts : Counts) (shown : String) :
    (∀ failure, Asn.parse shown = .error failure → counts.asnCount shown = 0) ∧
    ∀ number, Asn.parse shown = .ok number →
      ((∀ key ∈ counts.asns.keys, ¬ KeyOf number key) ∧ counts.asnCount shown = 0 ∨
        ∃ key, KeyOf number key ∧ counts.asns.get? key = some (counts.asnCount shown) ∧
          ∀ other ∈ counts.asns.keys, KeyOf number other →
            Text.Utf8.encode key.toList ≤ Text.Utf8.encode other.toList) ∧
      (∀ spelling, Asn.parse spelling = .ok number →
        counts.asnCount spelling = counts.asnCount shown) ∧
      ∀ changed : Counts, (∀ key, KeyOf number key → changed.asns.get? key = counts.asns.get? key) →
        changed.asnCount shown = counts.asnCount shown := by
  refine ⟨fun failure malformed => asnCount_of_error malformed, fun number denotes => ⟨?_, ?_, ?_⟩⟩
  · rw [asnCount_of_ok denotes]
    cases found : counts.keyedCount? number with
    | none => exact .inl ⟨keyedCount?_eq_none_iff.mp found, rfl⟩
    | some entry =>
      obtain ⟨value, own, least⟩ := keyedCount?_eq_some_iff.mp found
      refine .inr ⟨entry.1, own, value, fun other inside ownToo => ?_⟩
      by_cases same : other = entry.1
      · rw [same]
        exact List.le_refl _
      · exact List.le_of_lt (Text.Utf8.encode_lt_encode (least other inside ownToo same))
  · intro spelling alike
    rw [asnCount_of_ok alike, asnCount_of_ok denotes]
  · intro changed same
    rw [asnCount_of_ok denotes, asnCount_of_ok denotes, keyedCount?_congr same]

/-- Two keys of 3320 among keys that look like them. -/
def crowded : Counts where
  asns := .ofList [("332-", 1), ("3320", 9), ("3320-Other name", 2), ("3320-Deutsche Telekom AG", 5),
    ("03320-Deutsche Telekom AG", 4), ("33201-Vodafone", 8), ("+3320-x", 3)]

/-- One of the others changes its count. -/
def recounted : Counts where
  asns := crowded.asns.insert "332-" 70

/-- Two spellings have the same count, and the change of another key leaves it as it is. -/
theorem asnCount_reads_own_keys_crowded :
    Asn.parse "AS3320" = .ok 3320 ∧ Asn.parse " 003320\t" = .ok 3320 ∧
      (∀ key, KeyOf 3320 key → recounted.asns.get? key = crowded.asns.get? key) ∧
      crowded.asnCount "AS3320" = 5 ∧ crowded.asnCount " 003320\t" = 5 ∧
      recounted.asnCount "AS3320" = 5 := by
  have shown : Asn.parse "AS3320" = .ok 3320 := by decide +kernel
  have bare : Asn.parse " 003320\t" = .ok 3320 := by decide +kernel
  have same : ∀ key, KeyOf 3320 key → recounted.asns.get? key = crowded.asns.get? key := by
    intro key own
    have differs : key ≠ "332-" := by
      rintro rfl
      exact absurd own (by decide +kernel)
    rw [recounted, Dictionary.get?_insert, if_neg differs]
  have five : crowded.asnCount "AS3320" = 5 := by decide +kernel
  obtain ⟨_, spellings, changes⟩ := (asnCount_reads_own_keys crowded "AS3320").2 3320 shown
  exact ⟨shown, bare, same, five, (spellings _ bare).trans five, (changes _ same).trans five⟩

end HostDashboard.Counts
