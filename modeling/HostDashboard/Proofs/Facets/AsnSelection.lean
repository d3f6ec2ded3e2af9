/-
**Which texts can be selected as autonomous systems.**

A text shows a number if it can be cut up into blanks, possibly the two letters, digits that write the number, and
blanks (`Parts.Shows`). Trimming takes off just these blanks, and what stands behind the letters is read only if
it is digits, so the texts that are accepted are those that show a number below 2 ^ 32 (`parse_eq_ok_iff_shows`);
every other text is refused as malformed, under its own name (`parse_of_not_shows`).

An option of the sidebar shows such a number. So to select one, or to take it out again, never leaves a state
without a filter (`Navigation.filter_toggle_option`).
-/

import HostDashboard.Proofs.Facets.AsnOptions
import HostDashboard.Proofs.Facets.Toggle
import HostDashboard.Proofs.Filter.Composed

namespace HostDashboard

namespace Asn

/-- A text that is cut up into blanks, letters, digits and blanks. -/
structure Parts where
  before : List Char
  letters : List Char
  digits : List Char
  behind : List Char

namespace Parts

/-- The text without the blanks. -/
def core (parts : Parts) : List Char := parts.letters ++ parts.digits

def text (parts : Parts) : List Char := parts.before ++ parts.core ++ parts.behind

/-- The parts are what they are called, and the digits write a number. -/
structure Shows (parts : Parts) (number : Nat) : Prop where
  before : Text.AllBlank parts.before
  letters : parts.letters = [] ∨ parts.letters = ['A', 'S']
  nonempty : parts.digits ≠ []
  digits : ∀ d ∈ parts.digits, d.isDigit = true
  value : Nat.ofDigitChars 10 parts.digits 0 = number
  behind : Text.AllBlank parts.behind

end Parts

/-! ### Accepted texts -/

theorem read?_eq_some_iff_value {digits : List Char} {number : Nat} :
    Decimal.read? digits = some number ↔
      digits ≠ [] ∧ (∀ d ∈ digits, d.isDigit = true) ∧ Nat.ofDigitChars 10 digits 0 = number := by
  rw [Decimal.read?_eq_some_iff, Decimal.value_eq_ofDigitChars]

theorem withoutLetters_of_digits {digits : List Char} (all : ∀ d ∈ digits, d.isDigit = true) :
    withoutLetters digits = digits := by
  unfold withoutLetters
  split
  · next rest => exact absurd (all 'A' List.mem_cons_self) (by decide)
  · rfl

/-- What stands behind the letters is digits just if the whole is digits, with the letters or without. -/
theorem read?_withoutLetters {core : List Char} {number : Nat} :
    Decimal.read? (withoutLetters core) = some number ↔
      ∃ letters digits, core = letters ++ digits ∧ (letters = [] ∨ letters = ['A', 'S']) ∧
        Decimal.read? digits = some number := by
  constructor
  · intro found
    unfold withoutLetters at found
    split at found
    · next rest => exact ⟨['A', 'S'], rest, rfl, .inr rfl, found⟩
    · exact ⟨[], core, rfl, .inl rfl, found⟩
  · rintro ⟨letters, digits, rfl, rfl | rfl, found⟩
    · rw [List.nil_append, withoutLetters_of_digits (Decimal.read?_eq_some_iff.mp found).2.1]
      exact found
    · exact found

theorem Parts.Shows.padded {parts : Parts} {number : Nat} (shows : parts.Shows number) :
    Text.Padded parts.before parts.core parts.behind := by
  refine ⟨shows.before, Text.unpadded_of_notBlank fun c member => ?_, shows.behind⟩
  rcases List.mem_append.mp member with letter | digit
  · rcases shows.letters with none | both
    · rw [none] at letter
      cases letter
    · rw [both] at letter
      rcases List.mem_pair.mp letter with rfl | rfl <;> decide
  · exact Text.isBlank_of_isDigit (shows.digits c digit)

/-- **The texts that are accepted** are those that show a number below 2 ^ 32. -/
theorem parse_eq_ok_iff_shows {shown : String} {number : Nat} :
    parse shown = .ok number ↔
      (∃ parts : Parts, parts.text = shown.toList ∧ parts.Shows number) ∧ number < Nat.pow 2 32 := by
  rw [parse_eq_ok_iff, read?_withoutLetters]
  refine and_congr_left fun _ => ?_
  constructor
  · rintro ⟨letters, digits, core, few, found⟩
    obtain ⟨nonempty, all, value⟩ := read?_eq_some_iff_value.mp found
    obtain ⟨front, back, padded, around⟩ := Text.exists_padded shown.toList
    rw [core] at around
    exact ⟨⟨front, letters, digits, back⟩, around, padded.before, few, nonempty, all, value, padded.behind⟩
  · rintro ⟨parts, whole, shows⟩
    refine ⟨parts.letters, parts.digits, ?_, shows.letters,
      read?_eq_some_iff_value.mpr ⟨shows.nonempty, shows.digits, shows.value⟩⟩
    rw [← whole]
    exact shows.padded.trim_eq

/-- Every failure names the text that is refused. -/
theorem failure_of_parse {shown : String} {failure : Failure} (bad : parse shown = .error failure) :
    ∃ detail, failure = .malformed ("invalid ASN selection '" ++ shown ++ "'" ++ detail) := by
  unfold parse at bad
  split at bad
  · cases bad
  · next fault _ =>
    cases bad
    cases fault with
    | notDigits =>
      refine ⟨"", ?_⟩
      rw [String.append_empty]
      rfl
    | tooLarge =>
      refine ⟨": number too large to fit in target type", ?_⟩
      rw [String.append_assoc]
      rfl

/-- **Every other text is malformed.** -/
theorem parse_of_not_shows {shown : String}
    (none : ∀ parts : Parts, parts.text = shown.toList → ∀ number < Nat.pow 2 32, ¬ parts.Shows number) :
    ∃ detail, parse shown = .error (.malformed ("invalid ASN selection '" ++ shown ++ "'" ++ detail)) := by
  cases read : parse shown with
  | ok number =>
    obtain ⟨⟨parts, whole, shows⟩, fits⟩ := parse_eq_ok_iff_shows.mp read
    exact absurd shows (none parts whole number fits)
  | error failure =>
    obtain ⟨detail, rfl⟩ := failure_of_parse read
    exact ⟨detail, rfl⟩

end Asn

/-! ### Options -/

theorem Counts.parse_of_mem_options {counts : Counts} {shown : String}
    (listed : shown ∈ counts.options .asns) : ∃ number, Asn.parse shown = .ok number := by
  obtain ⟨number, member, rfl⟩ := List.mem_map.mp listed
  exact ⟨number, Asn.parse_show (mem_asnNumbers_iff.mp member).2⟩

/-- The state with one more autonomous system selected, or one less. -/
def Navigation.toggleAsn (navigation : Navigation) (shown : String) : Navigation :=
  { navigation with selections := navigation.selections.toggle .asns shown }

theorem Navigation.eq_or_mem_of_mem_toggleAsn {navigation : Navigation} {shown other : String}
    (member : other ∈ (navigation.toggleAsn shown).selections.asns) :
    other = shown ∨ other ∈ navigation.selections.asns := by
  have flipped : other ∈ Selections.flip shown navigation.selections.asns := member
  by_cases same : other = shown
  · exact .inl same
  · exact .inr ((Selections.mem_flip_of_ne same _).mp flipped)

/-- **To select an option never leaves a state without a filter**, nor does taking it out again. -/
theorem Navigation.filter_toggle_option {counts : Counts} {shown : String}
    (listed : shown ∈ counts.options .asns) {navigation : Navigation} {filter : Filter}
    (built : navigation.filter = .ok filter) :
    ∃ toggled, (navigation.toggleAsn shown).filter = .ok toggled := by
  rcases (navigation.toggleAsn shown).filter_cases with ⟨toggled, has, _⟩ | ⟨other, member, failure, bad, _⟩
  · exact ⟨toggled, has⟩
  · rcases eq_or_mem_of_mem_toggleAsn member with rfl | before
    · obtain ⟨number, good⟩ := Counts.parse_of_mem_options listed
      cases good.symm.trans bad
    · obtain ⟨other, failed⟩ := filter_eq_error_iff.mpr ⟨other, before, failure, bad⟩
      cases built.symm.trans failed

namespace Asn

/-- **A text is accepted as an autonomous system exactly if it shows a number of 32 bits.** It is taken as a
number just if it is blanks, possibly the two letters, one or more digits that write the number, and blanks, and
the number is below 2 ^ 32; every other text is malformed. A number that is shown is read again. So an option of
the sidebar, whatever was counted, can be selected in a state that has a filter, and it has one after that. -/
theorem selections_exact (shown : String) :
    (∀ number, parse shown = .ok number ↔
      (∃ parts : Parts, parts.text = shown.toList ∧ parts.Shows number) ∧ number < Nat.pow 2 32) ∧
    ((∀ parts : Parts, parts.text = shown.toList → ∀ number < Nat.pow 2 32, ¬ parts.Shows number) →
      ∃ detail,
        parse shown = .error (.malformed ("invalid ASN selection '" ++ shown ++ "'" ++ detail))) ∧
    (∀ number < Nat.pow 2 32, parse («show» number) = .ok number) ∧
    ∀ counts : Counts, shown ∈ counts.options .asns →
      ∀ (navigation : Navigation) (filter : Filter), navigation.filter = .ok filter →
        ∃ toggled, (navigation.toggleAsn shown).filter = .ok toggled :=
  ⟨fun _ => parse_eq_ok_iff_shows, parse_of_not_shows, fun _ => parse_show,
    fun _ listed _ _ => Navigation.filter_toggle_option listed⟩

/-- Two pairs of letters, and the number 3320 as an option among others. -/
theorem selections_exact_crowded :
    (∃ detail, parse "ASAS1" = .error (.malformed ("invalid ASN selection 'ASAS1'" ++ detail))) ∧
      «show» 3320 ∈ Counts.crowded.options .asns ∧
      ∃ filter, (Navigation.toggleAsn {} («show» 3320)).filter = .ok filter := by
  have refused : ∀ number, parse "ASAS1" ≠ .ok number := by
    have failed : parse "ASAS1" = .error (.malformed "invalid ASN selection 'ASAS1'") := by decide +kernel
    intro number
    rw [failed]
    exact nofun
  obtain ⟨accepted, others, _, _⟩ := selections_exact "ASAS1"
  have none : ∀ parts : Parts, parts.text = "ASAS1".toList →
      ∀ number < Nat.pow 2 32, ¬ parts.Shows number := fun parts whole number fits shows =>
    refused number ((accepted number).mpr ⟨⟨parts, whole, shows⟩, fits⟩)
  have listed : «show» 3320 ∈ Counts.crowded.options .asns := by decide +kernel
  exact ⟨others none, listed, (selections_exact («show» 3320)).2.2.2 _ listed {} _ rfl⟩

end Asn

end HostDashboard
