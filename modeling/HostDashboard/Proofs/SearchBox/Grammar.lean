/-
**The grammar of the search box.**

A clause is typed as a field, a colon and a value, with blanks anywhere around the three. A field is a path
of words with dots between them; a value fills its line and has no blanks at its ends. `Parts` is a text cut
up that way, and `Parts.WellFormed` says when the cut is one of the grammar.

A field has no colon and the blanks have none, so the cut is at the first colon of the text
(`WellFormed.colonless`). On either side of it a part without blanks at its ends stands between blanks, and
that determines the part and the blanks (`Text.Padded.unique`). So there is at most one cut
(`WellFormed.unique`), and `split?` finds it: `split?_eq_some_iff` has soundness and completeness. As blanks
are allowed at both ends, a text and its trimmed text are the same clause (`parse?_trimmed`).
-/

import HostDashboard.Proofs.Text.Pieces
import HostDashboard.SearchBox

namespace HostDashboard

/-! ### Classes of characters -/

namespace Text

theorem inRanges_disjoint {first second : List (Nat × Nat)}
    (apart : ∀ one ∈ first, ∀ other ∈ second, one.2 < other.1 ∨ other.2 < one.1) {c : Char}
    (inside : inRanges first c = true) : inRanges second c = false := by
  obtain ⟨one, member, bounds⟩ := List.any_eq_true.mp inside
  refine List.any_eq_false.mpr fun other member' bounds' => ?_
  have := apart one member other member'
  simp only [Bool.and_eq_true, decide_eq_true_eq] at bounds bounds'
  omega

/-- No blank is a word character. -/
theorem isWord_of_isBlank {c : Char} (blank : isBlank c = true) : isWord c = false :=
  inRanges_disjoint (by decide +kernel) blank

end Text

namespace FieldQuery

theorem isFieldChar_of_isBlank {c : Char} (blank : Text.isBlank c = true) : isFieldChar c = false := by
  have noDot : c ≠ '.' := by
    rintro rfl
    cases blank
  simp [isFieldChar, Text.isWord_of_isBlank blank, noDot]

theorem isFieldChar_colon : isFieldChar ':' = false := by decide +kernel

/-! ### Texts cut up -/

/-- A text cut up into a field and a value, a colon between them, and what stands around the three. -/
structure Parts where
  before : List Char
  field : List Char
  after : List Char
  lead : List Char
  value : List Char
  behind : List Char

/-- Runs of word characters, at least one, none of them empty, with single dots between them. -/
def IsPath (field : List Char) : Prop :=
  ∃ runs : List (List Char), runs ≠ [] ∧
    (∀ run ∈ runs, run ≠ [] ∧ ∀ c ∈ run, Text.isWord c = true) ∧ ['.'].intercalate runs = field

/-- A text within one line that begins and ends with a character that is no blank. -/
structure IsValue (value : List Char) : Prop where
  nonempty : value ≠ []
  unpadded : Text.Unpadded value
  oneLine : '\n' ∉ value

namespace Parts

/-- What stands before the colon. -/
def left (parts : Parts) : List Char := parts.before ++ parts.field ++ parts.after

/-- What stands behind the colon. -/
def right (parts : Parts) : List Char := parts.lead ++ parts.value ++ parts.behind

/-- The text in one piece. -/
def text (parts : Parts) : List Char := parts.left ++ ':' :: parts.right

/-- The clause in the text. -/
def query (parts : Parts) : FieldQuery := ⟨String.ofList parts.field, String.ofList parts.value⟩

/-- The text is cut up as the grammar has it. -/
structure WellFormed (parts : Parts) : Prop where
  before : Text.AllBlank parts.before
  field : IsPath parts.field
  after : Text.AllBlank parts.after
  lead : Text.AllBlank parts.lead
  value : IsValue parts.value
  behind : Text.AllBlank parts.behind

end Parts

/-! ### Fields -/

theorem isPath_iff_pieces (field : List Char) :
    IsPath field ↔ ∀ run ∈ Text.pieces '.' field, run ≠ [] ∧ ∀ c ∈ run, Text.isWord c = true := by
  constructor
  · rintro ⟨runs, some, words, rfl⟩
    have noDot : ∀ run ∈ runs, '.' ∉ run := by
      intro run member dot
      have word : Text.isWord '.' = true := (words run member).2 '.' dot
      revert word
      decide +kernel
    rwa [Text.pieces_intercalate some noDot]
  · intro words
    exact ⟨_, Text.pieces_ne_nil '.' field, words, Text.intercalate_pieces '.' field⟩

/-- **The paths are the texts of field characters that are taken for fields.** -/
theorem isPath_iff (field : List Char) :
    IsPath field ↔ isField field = true ∧ ∀ c ∈ field, isFieldChar c = true := by
  have runs : isField field = true ↔ ∀ run ∈ Text.pieces '.' field, run ≠ [] := by
    simp [isField]
  rw [isPath_iff_pieces, runs, forall₂_and]
  refine and_congr_right fun _ => ⟨fun words c member => ?_, fun chars run member c inside => ?_⟩
  · by_cases dot : c = '.'
    · simp [isFieldChar, dot]
    · obtain ⟨run, found, inside⟩ := (Text.mem_iff_mem_pieces dot field).mp member
      simp [isFieldChar, words run found c inside]
  · have noDot : c ≠ '.' := by
      rintro rfl
      exact Text.notMem_of_mem_pieces member inside
    have char := chars c ((Text.mem_iff_mem_pieces noDot field).mpr ⟨run, member, inside⟩)
    simpa [isFieldChar, noDot] using char

namespace IsPath

variable {field : List Char} (path : IsPath field)

include path

theorem isFieldChar_of_mem {c : Char} (member : c ∈ field) : isFieldChar c = true :=
  ((isPath_iff field).mp path).2 c member

theorem notBlank {c : Char} (member : c ∈ field) : Text.isBlank c = false := by
  by_contra blank
  have noField := isFieldChar_of_isBlank (Bool.not_eq_false _ ▸ blank)
  simp [path.isFieldChar_of_mem member] at noField

theorem unpadded : Text.Unpadded field := Text.unpadded_of_notBlank fun _ => path.notBlank

theorem nonempty : field ≠ [] := by
  rintro rfl
  exact ((isPath_iff_pieces []).mp path [] (by simp [Text.pieces])).1 rfl

theorem noColon : ':' ∉ field := by
  intro member
  simpa [isFieldChar_colon] using path.isFieldChar_of_mem member

variable {after : List Char} (blank : Text.AllBlank after) (rest : List Char)

include blank

/-- A field ends at the blanks or the colon behind it. -/
theorem takeWhile_append :
    (field ++ (after ++ ':' :: rest)).takeWhile isFieldChar = field := by
  rw [List.takeWhile_append_of_pos fun c => path.isFieldChar_of_mem]
  cases after with
  | nil => simp [isFieldChar_colon]
  | cons head tail => simp [isFieldChar_of_isBlank (blank head List.mem_cons_self)]

theorem dropWhile_append :
    (field ++ (after ++ ':' :: rest)).dropWhile isFieldChar = after ++ ':' :: rest := by
  rw [List.dropWhile_append_of_pos fun c => path.isFieldChar_of_mem]
  cases after with
  | nil => simp [isFieldChar_colon]
  | cons head tail => simp [isFieldChar_of_isBlank (blank head List.mem_cons_self)]

end IsPath

theorem noColon_of_allBlank {text : List Char} (blank : Text.AllBlank text) : ':' ∉ text := by
  intro member
  cases blank ':' member

/-! ### Cuts -/

namespace Parts.WellFormed

variable {parts : Parts} (wellFormed : parts.WellFormed)

include wellFormed

/-- **The cut is at the first colon.** -/
theorem colonless : ':' ∉ parts.left := by
  simp [left, noColon_of_allBlank wellFormed.before, wellFormed.field.noColon,
    noColon_of_allBlank wellFormed.after]

theorem cut_text : Text.cut ':' parts.text = (parts.left, some parts.right) :=
  Text.cut_append wellFormed.colonless parts.right

theorem padded_field : Text.Padded parts.before parts.field parts.after :=
  ⟨wellFormed.before, wellFormed.field.unpadded, wellFormed.after⟩

theorem padded_value : Text.Padded parts.lead parts.value parts.behind :=
  ⟨wellFormed.lead, wellFormed.value.unpadded, wellFormed.behind⟩

/-- Blanks have no colons, so those behind the first are all in the value. -/
theorem count_right : parts.right.count ':' = parts.value.count ':' := by
  simp [right, List.count_eq_zero.mpr (noColon_of_allBlank wellFormed.lead),
    List.count_eq_zero.mpr (noColon_of_allBlank wellFormed.behind)]

/-- **A text is cut up in at most one way.** -/
theorem unique {other : Parts} (wellFormed' : other.WellFormed) (same : parts.text = other.text) :
    parts = other := by
  have cuts := congrArg (Text.cut ':') same
  rw [wellFormed.cut_text, wellFormed'.cut_text, Prod.mk.injEq, Option.some.injEq] at cuts
  obtain ⟨before, field, after⟩ :=
    wellFormed.padded_field.unique wellFormed'.padded_field wellFormed.field.nonempty cuts.1
  obtain ⟨lead, value, behind⟩ :=
    wellFormed.padded_value.unique wellFormed'.padded_value wellFormed.value.nonempty cuts.2
  cases parts
  cases other
  simp_all

/-- **Completeness**: what is cut up as the grammar has it is found. -/
theorem split?_text : split? parts.text = some (parts.field, parts.value) := by
  have start : Text.trimStart parts.text = parts.field ++ (parts.after ++ ':' :: parts.right) := by
    rw [text, left, List.append_assoc, List.append_assoc, Text.trimStart_append wellFormed.before]
    exact Text.trimStart_eq_self
      (Text.head?_append_notBlank wellFormed.field.nonempty wellFormed.field.unpadded.1 _)
  have colon : Text.trimStart (parts.after ++ ':' :: parts.right) = ':' :: parts.right := by
    rw [Text.trimStart_append wellFormed.after]
    exact Text.trimStart_eq_self fun c first => by
      cases first
      decide
  have value : Text.trim parts.right = parts.value := wellFormed.padded_value.trim_eq
  have isField := ((isPath_iff parts.field).mp wellFormed.field).1
  unfold split?
  simp only [start, wellFormed.field.takeWhile_append wellFormed.after,
    wellFormed.field.dropWhile_append wellFormed.after, colon, value]
  simp [isField, wellFormed.value.nonempty, wellFormed.value.oneLine]

end Parts.WellFormed

/-- **Soundness**: what is found is a cut of the text. -/
theorem exists_parts_of_split? {source field value : List Char}
    (found : split? source = some (field, value)) :
    ∃ parts : Parts, parts.WellFormed ∧ parts.text = source ∧ parts.field = field ∧
      parts.value = value := by
  unfold split? at found
  dsimp only at found
  generalize opened : Text.trimStart source = start at found
  split at found
  · next rest colon =>
    split at found
    · next accepted =>
      cases found
      simp only [Bool.and_eq_true, Bool.not_eq_true', List.isEmpty_eq_false_iff,
        List.contains_eq_mem, decide_eq_false_iff_not] at accepted
      obtain ⟨⟨isField, nonempty⟩, oneLine⟩ := accepted
      obtain ⟨lead, behind, padded, whole⟩ := Text.exists_padded rest
      refine ⟨⟨source.takeWhile Text.isBlank, start.takeWhile isFieldChar,
        (start.dropWhile isFieldChar).takeWhile Text.isBlank, lead, Text.trim rest, behind⟩,
        ⟨fun _ => List.mem_takeWhile_imp, ?_, fun _ => List.mem_takeWhile_imp, padded.before,
          ⟨nonempty, padded.unpadded, oneLine⟩, padded.behind⟩, ?_, rfl, rfl⟩
      · exact (isPath_iff _).mpr ⟨isField, fun _ => List.mem_takeWhile_imp⟩
      · -- the text is put together again from behind
        calc Parts.text _
            = source.takeWhile Text.isBlank ++ (start.takeWhile isFieldChar ++
                ((start.dropWhile isFieldChar).takeWhile Text.isBlank ++ ':' :: rest)) := by
              simp only [Parts.text, Parts.left, Parts.right, whole, List.append_assoc]
          _ = source.takeWhile Text.isBlank ++ (start.takeWhile isFieldChar ++
                start.dropWhile isFieldChar) := by
              rw [← colon, Text.trimStart, List.takeWhile_append_dropWhile]
          _ = source := by
              rw [List.takeWhile_append_dropWhile, ← opened, Text.trimStart,
                List.takeWhile_append_dropWhile]
    · cases found
  · cases found

theorem split?_eq_some_iff (source field value : List Char) :
    split? source = some (field, value) ↔
      ∃ parts : Parts, parts.WellFormed ∧ parts.text = source ∧ parts.field = field ∧
        parts.value = value := by
  refine ⟨exists_parts_of_split?, ?_⟩
  rintro ⟨parts, wellFormed, rfl, rfl, rfl⟩
  exact wellFormed.split?_text

theorem parse?_eq_some_iff (source : String) (query : FieldQuery) :
    parse? source = some query ↔
      ∃ parts : Parts, parts.WellFormed ∧ parts.text = source.toList ∧ parts.query = query := by
  simp only [parse?, Option.map_eq_some_iff, Prod.exists, split?_eq_some_iff]
  constructor
  · rintro ⟨_, _, ⟨parts, wellFormed, whole, rfl, rfl⟩, rfl⟩
    exact ⟨parts, wellFormed, whole, rfl⟩
  · rintro ⟨parts, wellFormed, whole, rfl⟩
    exact ⟨_, _, ⟨parts, wellFormed, whole, rfl, rfl⟩, rfl⟩

/-! ### Blanks at the ends -/

namespace Parts

/-- What stands between the blanks at the ends. -/
def core (parts : Parts) : List Char :=
  parts.field ++ parts.after ++ ':' :: (parts.lead ++ parts.value)

/-- The same between other blanks. -/
def between (parts : Parts) (before behind : List Char) : Parts := { parts with before, behind }

theorem text_between (parts : Parts) (before behind : List Char) :
    (parts.between before behind).text = before ++ parts.core ++ behind := by
  simp [text, left, right, core, between]

theorem text_eq (parts : Parts) : parts.text = parts.before ++ parts.core ++ parts.behind :=
  parts.text_between parts.before parts.behind

namespace WellFormed

variable {parts : Parts} (wellFormed : parts.WellFormed)

include wellFormed

theorem between {before behind : List Char} (front : Text.AllBlank before)
    (back : Text.AllBlank behind) : (parts.between before behind).WellFormed :=
  ⟨front, wellFormed.field, wellFormed.after, wellFormed.lead, wellFormed.value, back⟩

theorem trim_text : Text.trim parts.text = parts.core := by
  have unpadded : Text.Unpadded parts.core := by
    refine ⟨?_, fun c last => wellFormed.value.unpadded.2 c ?_⟩
    · rw [core, List.append_assoc]
      exact Text.head?_append_notBlank wellFormed.field.nonempty wellFormed.field.unpadded.1 _
    · rwa [core, ← List.cons_append, ← List.append_assoc,
        List.getLast?_append_of_ne_nil _ wellFormed.value.nonempty] at last
  rw [text_eq]
  exact Text.Padded.trim_eq ⟨wellFormed.before, unpadded, wellFormed.behind⟩

end WellFormed

end Parts

/-- **Blanks at the ends of a text do not count.** -/
theorem parse?_trimmed (source : String) : parse? (Text.trimmed source) = parse? source := by
  ext query
  rw [parse?_eq_some_iff, parse?_eq_some_iff, Text.trimmed, String.toList_ofList]
  constructor
  · rintro ⟨parts, wellFormed, whole, rfl⟩
    obtain ⟨front, back, padded, around⟩ := Text.exists_padded source.toList
    refine ⟨parts.between (front ++ parts.before) (parts.behind ++ back),
      wellFormed.between (padded.before.append wellFormed.before)
        (wellFormed.behind.append padded.behind), ?_, rfl⟩
    rw [← around, ← whole, Parts.text_between, Parts.text_eq]
    simp only [List.append_assoc]
  · rintro ⟨parts, wellFormed, whole, rfl⟩
    refine ⟨parts.between [] [], wellFormed.between Text.allBlank_nil Text.allBlank_nil, ?_, rfl⟩
    rw [← whole, wellFormed.trim_text, Parts.text_between, List.nil_append, List.append_nil]

/-! ### The grammar -/

/-- **The search box takes for clauses exactly the texts of its grammar**, and each in one way. A text is the
clause of a field and a value just if it can be cut up into blanks, the field, blanks, a colon, blanks, the
value and blanks; it can be cut up so in at most one way. The colon is the first of the text: what stands
before it is the field but for blanks, and what stands behind it is the value but for blanks, with every
later colon. -/
theorem grammar_exact (source : String) :
    (∀ query, parse? source = some query ↔
      ∃ parts : Parts, parts.WellFormed ∧ parts.text = source.toList ∧ parts.query = query) ∧
    (∀ first second : Parts, first.WellFormed → second.WellFormed →
      first.text = source.toList → second.text = source.toList → first = second) ∧
    ∀ query, parse? source = some query → ∃ left right, source.toList = left ++ ':' :: right ∧
      ':' ∉ left ∧ Text.trim left = query.field.toList ∧ Text.trim right = query.value.toList ∧
      right.count ':' = query.value.toList.count ':' := by
  refine ⟨parse?_eq_some_iff source, fun first second one other same same' => ?_,
    fun query found => ?_⟩
  · exact one.unique other (same.trans same'.symm)
  · obtain ⟨parts, wellFormed, whole, rfl⟩ := (parse?_eq_some_iff source query).mp found
    refine ⟨parts.left, parts.right, whole.symm, wellFormed.colonless, ?_⟩
    simp only [Parts.query, String.toList_ofList]
    exact ⟨wellFormed.padded_field.trim_eq, wellFormed.padded_value.trim_eq, wellFormed.count_right⟩

/-- A clause with a colon in its value, and blanks around. -/
def colonText : String := " services.https.status : 200 OK: cached\n"

theorem grammar_exact_colons :
    parse? colonText = some ⟨"services.https.status", "200 OK: cached"⟩ ∧
      (∃ parts : Parts, parts.WellFormed ∧ parts.text = colonText.toList ∧
        ∀ other : Parts, other.WellFormed → other.text = colonText.toList → other = parts) ∧
      ∃ left right, colonText.toList = left ++ ':' :: right ∧
        ':' ∉ left ∧ Text.trim left = "services.https.status".toList ∧
        Text.trim right = "200 OK: cached".toList ∧ right.count ':' = 1 := by
  have found : parse? colonText = some ⟨"services.https.status", "200 OK: cached"⟩ := by
    decide +kernel
  obtain ⟨accepted, unique, colon⟩ := grammar_exact colonText
  obtain ⟨parts, wellFormed, whole, _⟩ := (accepted _).mp found
  refine ⟨found, ⟨parts, wellFormed, whole, fun other wellFormed' whole' => ?_⟩, colon _ found⟩
  exact unique other parts wellFormed' wellFormed whole' whole

end FieldQuery

end HostDashboard
