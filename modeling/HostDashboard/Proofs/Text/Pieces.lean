/-
**Cutting and trimming undone.**

`pieces` is the split of the core library (`pieces_eq_splitOn`), so putting separators between pieces
that hold none and cutting again changes nothing. A text begins with a word and a separator just if the
word is what stands before the first one (`append_singleton_prefix_iff`).

A text without blanks at its ends is one that trimming leaves alone (`trim_eq_self_iff`), and every trimmed
text is such (`unpadded_trim`). Blanks put at its ends are what trimming takes off (`Padded.trim_eq`), and
they can be told from the text in one way only (`Padded.unique`).
-/

import HostDashboard.Text.Pieces
import Mathlib.Data.List.DropRight

namespace HostDashboard.Text

variable {separator : Char}

/-! ### Pieces -/

theorem pieces_eq_splitOn (separator : Char) (text : List Char) :
    pieces separator text = text.splitOn separator := by
  induction text with
  | nil => rfl
  | cons c rest ih =>
    rw [pieces, List.splitOn_cons_eq_if_modifyHead, ih]
    by_cases same : c = separator
    · rw [if_pos same, if_pos (beq_iff_eq.mpr same)]
    · rw [if_neg same, if_neg (by simpa using same)]
      cases found : rest.splitOn separator with
      | nil => exact absurd found (List.splitOn_ne_nil separator rest)
      | cons piece others => rfl

/-- Cutting at a separator in the middle cuts both sides. -/
theorem pieces_append (first second : List Char) :
    pieces separator (first ++ separator :: second) =
      pieces separator first ++ pieces separator second := by
  simp only [pieces_eq_splitOn, List.splitOn_append_cons_self]

/-- Pieces without separators are found again. -/
theorem pieces_intercalate {parts : List (List Char)} (some : parts ≠ [])
    (whole : ∀ part ∈ parts, separator ∉ part) :
    pieces separator ([separator].intercalate parts) = parts := by
  rw [pieces_eq_splitOn, List.splitOn_intercalate separator whole some]

/-- A text without separators is its only piece. -/
theorem pieces_of_notMem {text : List Char} (whole : separator ∉ text) : pieces separator text = [text] := by
  have cut := pieces_intercalate (List.cons_ne_nil text []) fun piece member => by
    rw [List.mem_singleton.mp member]
    exact whole
  rwa [List.intercalate_singleton] at cut

theorem notMem_of_mem_pieces {text piece : List Char} (member : piece ∈ pieces separator text) :
    separator ∉ piece := by
  induction text generalizing piece with
  | nil =>
    rw [List.mem_singleton.mp member]
    exact List.not_mem_nil
  | cons c rest ih =>
    rw [pieces] at member
    split at member
    · rcases List.mem_cons.mp member with rfl | later
      · exact List.not_mem_nil
      · exact ih later
    · next other =>
      split at member
      · next none => exact absurd none (pieces_ne_nil separator rest)
      · next head others found =>
        rw [found] at ih
        rcases List.mem_cons.mp member with rfl | later
        · rw [List.mem_cons, not_or]
          exact ⟨Ne.symm other, ih List.mem_cons_self⟩
        · exact ih (List.mem_cons_of_mem _ later)

/-- Every character but the separators lies in a piece. -/
theorem mem_iff_mem_pieces {c : Char} (other : c ≠ separator) (text : List Char) :
    c ∈ text ↔ ∃ piece ∈ pieces separator text, c ∈ piece := by
  induction text with
  | nil => simp [pieces]
  | cons head rest ih =>
    rw [pieces]
    split
    · next same => simp [ih, same, other]
    · cases found : pieces separator rest with
      | nil => exact absurd found (pieces_ne_nil separator rest)
      | cons piece others =>
        rw [found] at ih
        simp [ih, or_assoc]

theorem cut_append {first : List Char} (whole : separator ∉ first) (second : List Char) :
    cut separator (first ++ separator :: second) = (first, some second) := by
  induction first with
  | nil => rw [List.nil_append, cut, if_pos rfl]
  | cons c rest ih =>
    rw [List.mem_cons, not_or] at whole
    rw [List.cons_append, cut, if_neg (Ne.symm whole.1), ih whole.2]

/-- The first cut is made where the separator stands first. -/
theorem cut_fst (text : List Char) : (cut separator text).1 = text.takeWhile (· ≠ separator) := by
  induction text with
  | nil => rfl
  | cons c rest ih =>
    rw [cut]
    by_cases same : c = separator
    · simp [same]
    · simp [same, ih]

/-- **A text begins with a word and a separator** just if the word is what stands before the first one. -/
theorem append_singleton_prefix_iff {word : List Char} (whole : separator ∉ word) (text : List Char) :
    word ++ [separator] <+: text ↔ separator ∈ text ∧ text.takeWhile (· ≠ separator) = word := by
  constructor
  · rintro ⟨rest, rfl⟩
    have all : ∀ c ∈ word, decide (c ≠ separator) = true := fun c member =>
      decide_eq_true fun same => whole (same ▸ member)
    refine ⟨by simp, ?_⟩
    rw [List.append_assoc, List.takeWhile_append_of_pos all]
    simp
  · rintro ⟨member, rfl⟩
    have stops : text.dropWhile (· ≠ separator) ≠ [] := by
      intro none
      have := List.dropWhile_eq_nil_iff.mp none separator member
      simp at this
    obtain ⟨c, rest, found⟩ := List.exists_cons_of_ne_nil stops
    have first : c = separator := by
      have := List.head?_dropWhile_not (· ≠ separator) text
      rw [found] at this
      simpa using this
    refine ⟨rest, ?_⟩
    calc text.takeWhile (· ≠ separator) ++ [separator] ++ rest
        = text.takeWhile (· ≠ separator) ++ text.dropWhile (· ≠ separator) := by
          rw [found, first, List.append_assoc, List.singleton_append]
      _ = text := List.takeWhile_append_dropWhile

/-! ### Blanks at the ends -/

/-- The first and the last character are no blanks. -/
def Unpadded (text : List Char) : Prop :=
  (∀ c ∈ text.head?, isBlank c = false) ∧ ∀ c ∈ text.getLast?, isBlank c = false

instance (text : List Char) : Decidable (Unpadded text) :=
  decidable_of_iff ((text.head?.all fun c => !isBlank c) ∧ text.getLast?.all fun c => !isBlank c)
    (by simp [Unpadded, Option.all_eq_true])

theorem unpadded_of_notBlank {text : List Char} (notBlank : ∀ c ∈ text, isBlank c = false) :
    Unpadded text :=
  ⟨fun c first => notBlank c (List.mem_of_mem_head? first),
    fun c last => notBlank c (List.mem_of_getLast? last)⟩

theorem trimStart_eq_self {text : List Char} (start : ∀ c ∈ text.head?, isBlank c = false) :
    trimStart text = text := by
  cases text with
  | nil => rfl
  | cons c rest =>
    rw [trimStart, List.dropWhile_cons_of_neg]
    rw [start c rfl]
    exact Bool.false_ne_true

theorem trimEnd_eq_rdropWhile (text : List Char) : trimEnd text = text.rdropWhile isBlank := rfl

theorem head?_trimStart (text : List Char) : ∀ c ∈ (trimStart text).head?, isBlank c = false := by
  intro c first
  have := List.head?_dropWhile_not isBlank text
  unfold trimStart at first
  rwa [Option.mem_def.mp first] at this

theorem getLast?_trimEnd (text : List Char) : ∀ c ∈ (trimEnd text).getLast?, isBlank c = false := by
  intro c last
  rw [trimEnd_eq_rdropWhile] at last
  have some : text.rdropWhile isBlank ≠ [] := by
    intro none
    rw [none] at last
    cases last
  have notBlank := List.rdropWhile_last_not isBlank text some
  rw [List.getLast?_eq_some_getLast some] at last
  rw [← Option.some.inj last]
  exact Bool.eq_false_iff.mpr notBlank

/-- What is cut off at the end leaves the start as it was. -/
theorem head?_trimEnd (text : List Char) : ∀ c ∈ (trimEnd text).head?, c ∈ text.head? := by
  intro c first
  obtain ⟨rest, same⟩ : trimEnd text <+: text := List.rdropWhile_prefix isBlank text
  rw [← same, List.head?_append, Option.mem_def.mp first]
  rfl

/-- **A trimmed text has no blanks at its ends.** -/
theorem unpadded_trim (text : List Char) : Unpadded (trim text) :=
  ⟨fun c first => head?_trimStart text c (head?_trimEnd _ c first), getLast?_trimEnd _⟩

/-- **Trimming leaves alone exactly the texts without blanks at their ends.** -/
theorem trim_eq_self_iff (text : List Char) : trim text = text ↔ Unpadded text := by
  constructor
  · intro same
    rw [← same]
    exact unpadded_trim text
  · rintro ⟨start, stop⟩
    rw [trim, trimStart_eq_self start, trimEnd_eq_rdropWhile, List.rdropWhile_eq_self_iff]
    intro some blank
    have := stop _ (List.getLast?_eq_some_getLast some)
    rw [blank] at this
    cases this

theorem trimmed_trimmed (source : String) : trimmed (trimmed source) = trimmed source := by
  rw [trimmed, trimmed, String.toList_ofList, (trim_eq_self_iff _).mpr (unpadded_trim _)]

/-! ### Padding -/

/-- There is nothing but blanks. -/
def AllBlank (text : List Char) : Prop := ∀ c ∈ text, isBlank c = true

theorem allBlank_nil : AllBlank [] := nofun

theorem AllBlank.append {first second : List Char} (one : AllBlank first) (other : AllBlank second) :
    AllBlank (first ++ second) := by
  intro c member
  exact (List.mem_append.mp member).elim (one c) (other c)

theorem trimStart_append {front : List Char} (blank : AllBlank front) (rest : List Char) :
    trimStart (front ++ rest) = trimStart rest :=
  List.dropWhile_append_of_pos blank

theorem trimEnd_append (rest : List Char) {back : List Char} (blank : AllBlank back) :
    trimEnd (rest ++ back) = trimEnd rest := by
  have blank : ∀ c ∈ back.reverse, isBlank c = true := by simpa [AllBlank] using blank
  rw [trimEnd, List.reverse_append, List.dropWhile_append_of_pos blank, ← trimEnd]

/-- A text that starts with no blank still does with something behind it. -/
theorem head?_append_notBlank {text : List Char} (nonempty : text ≠ [])
    (start : ∀ c ∈ text.head?, isBlank c = false) (rest : List Char) :
    ∀ c ∈ (text ++ rest).head?, isBlank c = false := by
  cases text with
  | nil => exact absurd rfl nonempty
  | cons head tail => exact start

/-- A text without blanks at its ends stands between blanks. -/
structure Padded (front text back : List Char) : Prop where
  before : AllBlank front
  unpadded : Unpadded text
  behind : AllBlank back

/-- **Trimming takes off the blanks around a text**, and nothing of a text that has none at its ends. -/
theorem Padded.trim_eq {front text back : List Char} (padded : Padded front text back) :
    trim (front ++ text ++ back) = text := by
  obtain ⟨before, unpadded, behind⟩ := padded
  rw [List.append_assoc, trim, trimStart_append before]
  by_cases empty : text = []
  · subst empty
    have all := trimStart_append behind []
    rw [List.append_nil] at all
    rw [List.nil_append, all]
    rfl
  · rw [trimStart_eq_self (head?_append_notBlank empty unpadded.1 back), trimEnd_append _ behind]
    have same := (trim_eq_self_iff text).mpr unpadded
    rwa [trim, trimStart_eq_self unpadded.1] at same

/-- Every text is its trimmed text between blanks. -/
theorem exists_padded (text : List Char) :
    ∃ front back, Padded front (trim text) back ∧ front ++ trim text ++ back = text := by
  refine ⟨text.takeWhile isBlank, (trimStart text).rtakeWhile isBlank,
    ⟨fun c => List.mem_takeWhile_imp, unpadded_trim text, fun c => List.mem_rtakeWhile_imp⟩, ?_⟩
  rw [List.append_assoc, trim, trimEnd_eq_rdropWhile, List.rdropWhile_append_rtakeWhile, trimStart,
    List.takeWhile_append_dropWhile]

theorem takeWhile_append {front text : List Char} (before : AllBlank front)
    (start : ∀ c ∈ text.head?, isBlank c = false) : (front ++ text).takeWhile isBlank = front := by
  rw [List.takeWhile_append_of_pos before]
  cases text with
  | nil => simp
  | cons head tail => simp [start head rfl]

/-- **A text that is not empty stands between blanks in one way only.** -/
theorem Padded.unique {front text back front' text' back' : List Char}
    (padded : Padded front text back) (padded' : Padded front' text' back') (nonempty : text ≠ [])
    (same : front ++ text ++ back = front' ++ text' ++ back') :
    front = front' ∧ text = text' ∧ back = back' := by
  have middle : text = text' := by rw [← padded.trim_eq, same, padded'.trim_eq]
  subst middle
  have start (back : List Char) := head?_append_notBlank nonempty padded.unpadded.1 back
  have fronts : front = front' := by
    rw [List.append_assoc, List.append_assoc] at same
    rw [← takeWhile_append padded.before (start back), same,
      takeWhile_append padded'.before (start back')]
  subst fronts
  exact ⟨rfl, rfl, List.append_cancel_left same⟩

end HostDashboard.Text
