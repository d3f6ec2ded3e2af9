/-
**Segments that are appended to a path.**

A text becomes a segment by escapes, and these lose nothing: the segment is read as the text that it was written
for (`decode_written`), and no slash of the text ends it (`notMem_slash_written`). But two things come before. A
lone dot or two are passed over, and tabs and line breaks are dropped, after which dots count as in any path.

* `decode_of_isSingleDot` and `decode_of_isDoubleDot`: a segment that counts as dots is read as dots, so only a
  text that is dots without its tabs and line breaks is taken for them (`isSingleDot_written_iff`,
  `isDoubleDot_written_iff`);
* `appendSegment_eq`: what appending a text to a path with two segments or more comes to;
* `writeSegments_injective`: the text of a path tells its segments if none of them holds a slash.
-/

import HostDashboard.Api.Client
import HostDashboard.Proofs.Text.Case
import HostDashboard.Proofs.Text.Form

namespace HostDashboard.Url

open Text

/-! ### Escapes -/

/-- A text as it is written in a segment. -/
def written (special : Bool) (text : List Char) : List Char :=
  escapeExcept (segmentEscapes special) text

theorem plainExcept_iff {escapes : List Char} {c : Char} :
    plainExcept escapes c = true ↔ (0x20 ≤ c.toNat ∧ c.toNat < 0x7F) ∧ c ∉ escapes := by
  simp [plainExcept]

theorem mem_segmentEscapes {special : Bool} {c : Char} (member : c ∈ pathEscapes ++ ['/', '%']) :
    c ∈ segmentEscapes special := List.mem_append_left _ member

/-- **A segment is read as the text that it was written for.** -/
theorem decode_written (special : Bool) (text : List Char) :
    Percent.decode (written special text) = text := by
  refine Percent.decode_escape (fun c plain => ?_) text
  obtain ⟨⟨_, below⟩, notEscaped⟩ := plainExcept_iff.mp plain
  refine ⟨by omega, ?_⟩
  rintro rfl
  exact notEscaped (mem_segmentEscapes (by decide))

theorem written_injective (special : Bool) : Function.Injective (written special) :=
  Function.LeftInverse.injective (decode_written special)

/-- **No slash ends a segment early.** -/
theorem notMem_slash_written (special : Bool) (text : List Char) : '/' ∉ written special text := by
  intro member
  obtain ⟨c, _, inside⟩ := List.mem_flatMap.mp member
  split at inside
  · next plain =>
    rw [← List.mem_singleton.mp inside] at plain
    exact (plainExcept_iff.mp plain).2 (mem_segmentEscapes (by decide))
  · obtain ⟨octet, _, inside⟩ := List.mem_flatMap.mp inside
    exact absurd (Form.isWritten_of_mem_escapeOctet inside) (by decide)

/-! ### Dots -/

/-- The characters with a small letter. -/
def spellings (c : Char) : List Char :=
  let capital := Char.ofNat (c.toNat - 32)
  if capital.isUpper then [c, capital] else [c]

/-- The texts with a text of small letters. -/
def textSpellings : List Char → List (List Char)
  | [] => [[]]
  | c :: rest => (spellings c).flatMap fun first => (textSpellings rest).map (first :: ·)

theorem mem_textSpellings (text : List Char) : text ∈ textSpellings (text.map Char.toLower) := by
  induction text with
  | nil => exact List.mem_singleton_self []
  | cons c rest ih =>
    refine List.mem_flatMap.mpr ⟨c, ?_, List.mem_map_of_mem ih⟩
    dsimp only [spellings]
    rcases @eq_or_capital_of_toLower c c.toLower rfl with itself | ⟨upper, capital⟩
    · split
      · exact List.mem_cons.mpr (.inl itself)
      · exact List.mem_singleton.mpr itself
    · rw [← capital, if_pos upper]
      exact List.mem_cons_of_mem _ List.mem_cons_self

/-- What all spellings of some words are read as is what a text is read as that is one of them. -/
theorem decode_of_spelled {words : List String} {value segment : List Char}
    (each : ∀ word ∈ words, ∀ text ∈ textSpellings word.toList, Percent.decode text = value)
    (spelled : words.contains (String.ofList (segment.map Char.toLower)) = true) :
    Percent.decode segment = value := by
  refine each _ (List.contains_iff_mem.mp spelled) segment ?_
  rw [String.toList_ofList]
  exact mem_textSpellings segment

theorem decode_of_isSingleDot {segment : List Char} (single : isSingleDot segment = true) :
    Percent.decode segment = ['.'] := decode_of_spelled (by decide) single

theorem decode_of_isDoubleDot {segment : List Char} (double : isDoubleDot segment = true) :
    Percent.decode segment = ['.', '.'] := decode_of_spelled (by decide) double

theorem isSingleDot_written_iff {special : Bool} {text : List Char} :
    isSingleDot (written special text) = true ↔ text = ['.'] := by
  refine ⟨fun single => (decode_written special text).symm.trans (decode_of_isSingleDot single), ?_⟩
  rintro rfl
  cases special <;> decide

theorem isDoubleDot_written_iff {special : Bool} {text : List Char} :
    isDoubleDot (written special text) = true ↔ text = ['.', '.'] := by
  refine ⟨fun double => (decode_written special text).symm.trans (decode_of_isDoubleDot double), ?_⟩
  rintro rfl
  cases special <;> decide

/-! ### Appending -/

/-- The characters of a text that are not passed over. -/
def kept (text : List Char) : List Char := text.filter fun c => !(c = '\t' || c = '\n' || c = '\r')

theorem kept_eq_self_iff {text : List Char} :
    kept text = text ↔ '\t' ∉ text ∧ '\n' ∉ text ∧ '\r' ∉ text := by
  unfold kept
  rw [List.filter_eq_self]
  simp only [Bool.not_eq_true', Bool.or_eq_false_iff, decide_eq_false_iff_not]
  refine ⟨fun each => ⟨fun tab => (each _ tab).1.1 rfl, fun feed => (each _ feed).1.2 rfl,
    fun back => (each _ back).2 rfl⟩, fun ⟨tab, feed, back⟩ c member => ⟨⟨?_, ?_⟩, ?_⟩⟩
  · rintro rfl
    exact tab member
  · rintro rfl
    exact feed member
  · rintro rfl
    exact back member

/-- Only a local file without segments treats one in its own way. -/
theorem addSegment_of_notDots {file : Bool} {path : List (List Char)} {segment : List Char} {final : Bool}
    (double : isDoubleDot segment = false) (single : isSingleDot segment = false)
    (noDrive : path ≠ [] ∨ isDrive segment = false) :
    addSegment file path segment final = path ++ [segment] := by
  have ordinary : (file && path.isEmpty && isDrive segment) = false := by
    rcases noDrive with nonempty | noDrive
    · rw [List.isEmpty_eq_false_iff.mpr nonempty, Bool.and_false, Bool.false_and]
    · rw [noDrive, Bool.and_false]
  rw [addSegment, double, single, ordinary]
  rfl

theorem shortened_append_pair (file : Bool) (path : List (List Char)) (first second : List Char) :
    shortened file (path ++ [first, second]) = path ++ [first] := by
  have last : path ++ [first, second] = (path ++ [first]) ++ [second] := by simp
  rw [last]
  unfold shortened
  split
  · next whole => exact absurd (congrArg List.length whole) (by simp)
  · exact List.dropLast_concat

/-- What a text adds to a path that ends with two segments. -/
theorem appendSegment_eq (file special : Bool) (path : List (List Char)) (first second text : List Char) :
    appendSegment file special (path ++ [first, second]) text =
      path ++
        if text = ['.'] ∨ text = ['.', '.'] then [first, second]
        else if kept text = ['.', '.'] then [first, []]
        else if kept text = ['.'] then [first, second, []]
        else [first, second, written special (kept text)] := by
  unfold appendSegment
  split
  · rfl
  · show addSegment file _ (written special (kept text)) true = _
    by_cases double : kept text = ['.', '.']
    · rw [addSegment, isDoubleDot_written_iff.mpr double, if_pos rfl, if_pos double,
        shortened_append_pair]
      simp
    · have notDouble : isDoubleDot (written special (kept text)) = false :=
        Bool.eq_false_iff.mpr fun holds => double (isDoubleDot_written_iff.mp holds)
      rw [if_neg double]
      by_cases single : kept text = ['.']
      · rw [addSegment, notDouble, isSingleDot_written_iff.mpr single, if_pos single]
        simp
      · have notSingle : isSingleDot (written special (kept text)) = false :=
          Bool.eq_false_iff.mpr fun holds => single (isSingleDot_written_iff.mp holds)
        rw [if_neg single, addSegment_of_notDots notDouble notSingle (.inl (by simp))]
        simp

/-! ### The text of a path -/

def writeSegments (segments : List (List Char)) : List Char := segments.flatMap ('/' :: ·)

theorem pieces_append_writeSegments {first : List Char} {rest : List (List Char)} (whole : '/' ∉ first)
    (others : ∀ segment ∈ rest, '/' ∉ segment) :
    pieces '/' (first ++ writeSegments rest) = first :: rest := by
  induction rest generalizing first with
  | nil =>
    rw [writeSegments, List.flatMap_nil, List.append_nil]
    exact pieces_of_notMem whole
  | cons next rest ih =>
    obtain ⟨wholeNext, others⟩ := List.forall_mem_cons.mp others
    show pieces '/' (first ++ '/' :: (next ++ writeSegments rest)) = _
    rw [pieces_append, pieces_of_notMem whole, ih wholeNext others]
    rfl

/-- **The text of a path tells its segments.** -/
theorem writeSegments_injective {first second : List (List Char)} (whole : ∀ segment ∈ first, '/' ∉ segment)
    (whole' : ∀ segment ∈ second, '/' ∉ segment) (same : writeSegments first = writeSegments second) :
    first = second := by
  have pieces : [] :: first = [] :: second := by
    rw [← pieces_append_writeSegments List.not_mem_nil whole,
      ← pieces_append_writeSegments List.not_mem_nil whole', same]
  exact List.tail_eq_of_cons_eq pieces

/-- Two slashes at the front of a path do not depend on what follows a letter. -/
theorem isPrefixOf_slashes (front more : List Char) {c : Char} (letter : c ≠ '/') :
    ['/', '/'].isPrefixOf (front ++ '/' :: c :: more) = ['/', '/'].isPrefixOf (front ++ ['/']) := by
  rcases front with _ | ⟨first, _ | ⟨second, rest⟩⟩
  · simp [List.isPrefixOf, letter.symm]
  · rfl
  · rfl

/-- **Links of one host tell the ends of their paths** behind a common front and a word. -/
theorem writePath_tail_injective {url other : Url} (host : url.host = other.host)
    {front first second : List (List Char)} {c : Char} {word : List Char}
    (path : url.path = .segments (front ++ (c :: word) :: first))
    (path' : other.path = .segments (front ++ (c :: word) :: second)) (letter : c ≠ '/')
    (whole : ∀ segment ∈ first, '/' ∉ segment) (whole' : ∀ segment ∈ second, '/' ∉ segment)
    (same : url.writePath = other.writePath) : first = second := by
  have text (rest : List (List Char)) : (front ++ (c :: word) :: rest).flatMap ('/' :: ·) =
      writeSegments front ++ '/' :: c :: (word ++ writeSegments rest) := by
    simp [writeSegments]
  unfold writePath at same
  rw [path, path', host] at same
  simp only [text, isPrefixOf_slashes _ _ letter] at same
  have ends : writeSegments first = writeSegments second := by
    split at same <;> simpa using same
  exact writeSegments_injective whole whole' ends

theorem notMem_slash_map_written (special : Bool) (texts : List (List Char)) :
    ∀ segment ∈ texts.map (written special), '/' ∉ segment := by
  intro segment member
  obtain ⟨text, _, rfl⟩ := List.mem_map.mp member
  exact notMem_slash_written special text

end HostDashboard.Url
