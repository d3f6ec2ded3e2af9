/-
**A value is read as it was written.**

The reader takes one character at a time, so its work on a written value is followed in the order of the
text: what it makes of the whole text that is left (`finish`) is the same when the text of a value is
replaced by the value, closed in the innermost open container (`finish_write`).

* `finish_escaped`: one character of a string. Every escape that is written is one that is read;
* `finish_quoted`, `finish_name`: a string as a value and as a name;
* `finish_number`: a numeral ends only where something follows that cannot belong to it, so what follows
  a value in a text is part of every statement here;
* `read?_write`: a whole text.

Doubles are left out: every number of the value must be whole and of 64 bits (`Exact`).
-/

import HostDashboard.Json.Printer
import HostDashboard.Json.Reader
import HostDashboard.Proofs.Json.Numeral

namespace HostDashboard

/-- A character is no surrogate, so among code units it stands for itself. -/
theorem Text.Surrogate.ofUnits_toNat (c : Char) (rest : List Nat) :
    ofUnits (c.toNat :: rest) = (ofUnits rest).map (c :: ·) := by
  have valid : c.toNat < 0xD800 ∨ 0xDFFF < c.toNat ∧ c.toNat < 0x110000 := c.valid
  have notHigh : isHigh c.toNat = false := by
    simp only [isHigh, Bool.and_eq_false_iff, decide_eq_false_iff_not]
    omega
  have notLow : isLow c.toNat = false := by
    simp only [isLow, Bool.and_eq_false_iff, decide_eq_false_iff_not]
    omega
  cases rest with
  | nil => simp [ofUnits, notHigh, notLow]
  | cons next others => simp [ofUnits, notHigh, notLow]

namespace Json

/-! ### The numbers of a value -/

mutual

/-- The numbers in a value. -/
def numbers : Json → List Number
  | .number n => [n]
  | .list items => itemNumbers items
  | .record members => memberNumbers members
  | _ => []

/-- The numbers in some values. -/
def itemNumbers : List Json → List Number
  | [] => []
  | item :: rest => item.numbers ++ itemNumbers rest

/-- The numbers in some members. -/
def memberNumbers : List (String × Json) → List Number
  | [] => []
  | (_, value) :: rest => value.numbers ++ memberNumbers rest

end

/-- All numbers in a value are whole ones of 64 bits. -/
def Exact (value : Json) : Prop := ∀ n ∈ value.numbers, n.IsWord

instance (value : Json) : Decidable value.Exact :=
  inferInstanceAs (Decidable (∀ n ∈ value.numbers, n.IsWord))

theorem exact_list_iff {items : List Json} : (list items).Exact ↔ ∀ item ∈ items, item.Exact := by
  show (∀ n ∈ itemNumbers items, n.IsWord) ↔ _
  induction items with
  | nil => simp [itemNumbers]
  | cons item rest ih => rw [itemNumbers, List.forall_mem_append, ih, List.forall_mem_cons, Exact]

theorem exact_record_iff {members : List (String × Json)} :
    (record members).Exact ↔ ∀ member ∈ members, member.2.Exact := by
  show (∀ n ∈ memberNumbers members, n.IsWord) ↔ _
  induction members with
  | nil => simp [memberNumbers]
  | cons member rest ih => rw [memberNumbers, List.forall_mem_append, ih, List.forall_mem_cons, Exact]

namespace Reader

/-- The document that a text completes from a state. -/
def finish (state : State) (source : List Char) : Option Document := (run state source).bind result?

theorem finish_cons (state : State) (c : Char) (rest : List Char) :
    finish state (c :: rest) = (step state c).bind (finish · rest) := by
  unfold finish
  rw [run, Option.bind_assoc]

theorem finish_step {state next : State} {c : Char} (taken : step state c = some next)
    (rest : List Char) : finish state (c :: rest) = finish next rest := by
  rw [finish_cons, taken, Option.bind_some]

/-! ### Strings -/

theorem unescape?_of_shortEscape? {c short : Char} (has : shortEscape? c = some short) :
    short ≠ 'u' ∧ unescape? short = some c := by
  unfold shortEscape? at has
  repeat' split at has
  all_goals cases has
  all_goals
    subst_vars
    decide

theorem plain_of_shortEscape? {c : Char} (none : shortEscape? c = none) : c ≠ '"' ∧ c ≠ '\\' := by
  constructor
  · rintro rfl
    cases none
  · rintro rfl
    cases none

variable {stack : List Frame} {naming : Bool}

theorem finish_short {c short : Char} (has : shortEscape? c = some short) (units : List Nat)
    (rest : List Char) :
    finish ⟨stack, .string naming units⟩ (['\\', short] ++ rest) =
      finish ⟨stack, .string naming (c.toNat :: units)⟩ rest := by
  obtain ⟨notUnit, stands⟩ := unescape?_of_shortEscape? has
  have escape : step ⟨stack, .string naming units⟩ '\\' = some ⟨stack, .escape naming units⟩ := rfl
  have plain : step ⟨stack, .escape naming units⟩ short =
      some ⟨stack, .string naming (c.toNat :: units)⟩ := by
    show (if short = 'u' then _ else _) = _
    rw [if_neg notUnit, stands]
    rfl
  rw [List.cons_append, finish_step escape, List.singleton_append, finish_step plain]

theorem finish_unit {c : Char} (control : c.toNat < 0x20) (units : List Nat) (rest : List Char) :
    finish ⟨stack, .string naming units⟩
        (['\\', 'u', '0', '0', Text.Hexadecimal.lower (c.toNat / 16),
          Text.Hexadecimal.lower (c.toNat % 16)] ++ rest) =
      finish ⟨stack, .string naming (c.toNat :: units)⟩ rest := by
  have high : Text.Hexadecimal.value? (Text.Hexadecimal.lower (c.toNat / 16)) = some (c.toNat / 16) :=
    Text.Hexadecimal.value_lower ⟨c.toNat / 16, by omega⟩
  have low : Text.Hexadecimal.value? (Text.Hexadecimal.lower (c.toNat % 16)) = some (c.toNat % 16) :=
    Text.Hexadecimal.value_lower ⟨c.toNat % 16, by omega⟩
  have zeros : finish ⟨stack, .string naming units⟩
        (['\\', 'u', '0', '0', Text.Hexadecimal.lower (c.toNat / 16),
          Text.Hexadecimal.lower (c.toNat % 16)] ++ rest) =
      finish ⟨stack, .unit naming units 2 0⟩
        (Text.Hexadecimal.lower (c.toNat / 16) :: Text.Hexadecimal.lower (c.toNat % 16) :: rest) := rfl
  have third : step ⟨stack, .unit naming units 2 0⟩ (Text.Hexadecimal.lower (c.toNat / 16)) =
      some ⟨stack, .unit naming units 1 (c.toNat / 16)⟩ := by
    show (Text.Hexadecimal.value? _).map _ = _
    rw [high]
    simp
  have last : step ⟨stack, .unit naming units 1 (c.toNat / 16)⟩
      (Text.Hexadecimal.lower (c.toNat % 16)) =
      some ⟨stack, .string naming (c.toNat :: units)⟩ := by
    show (Text.Hexadecimal.value? _).map _ = _
    rw [low]
    simp [Nat.div_add_mod']
  rw [zeros, finish_step third, finish_step last]

/-- **One character of a string.** -/
theorem finish_escaped (c : Char) (units : List Nat) (rest : List Char) :
    finish ⟨stack, .string naming units⟩ (escaped c ++ rest) =
      finish ⟨stack, .string naming (c.toNat :: units)⟩ rest := by
  unfold escaped
  split
  · next short has => exact finish_short has units rest
  · next none =>
    split
    · next control => exact finish_unit control units rest
    · next printable =>
      obtain ⟨noEnd, noEscape⟩ := plain_of_shortEscape? none
      have plain : step ⟨stack, .string naming units⟩ c =
          some ⟨stack, .string naming (c.toNat :: units)⟩ := by
        show (if c = '"' then _ else _) = _
        rw [if_neg noEnd, if_neg noEscape, if_neg printable]
      rw [List.singleton_append, finish_step plain]

theorem finish_text (text : List Char) (units : List Nat) (rest : List Char) :
    finish ⟨stack, .string naming units⟩ (text.flatMap escaped ++ rest) =
      finish ⟨stack, .string naming ((text.map Char.toNat).reverse ++ units)⟩ rest := by
  induction text generalizing units with
  | nil => rfl
  | cons c others ih =>
    rw [List.flatMap_cons, List.append_assoc, finish_escaped, ih, List.map_cons, List.reverse_cons,
      List.append_assoc, List.singleton_append]

/-- The code points of a text are code units of their own: none is half a pair. -/
theorem stringOf?_text (text : List Char) :
    stringOf? (text.map Char.toNat).reverse = some (String.ofList text) := by
  have units : Text.Surrogate.ofUnits (text.map Char.toNat) = some text := by
    induction text with
    | nil => rfl
    | cons c rest ih =>
      rw [List.map_cons, Text.Surrogate.ofUnits_toNat, ih, Option.map_some]
  rw [stringOf?, List.reverse_reverse, units, Option.map_some]

/-- A string from its opening quotation mark on, and what it closes as. -/
theorem finish_string {text : String} {closed : State}
    (closes : closeString naming (text.toList.map Char.toNat).reverse stack = some closed)
    {opening : State} (opened : step opening '"' = some ⟨stack, .string naming []⟩) (rest : List Char) :
    finish opening (quoted text.toList ++ rest) = finish closed rest := by
  -- collecting the characters leaves their code units in reverse
  have ended : step ⟨stack, .string naming (text.toList.map Char.toNat).reverse⟩ '"' = some closed :=
    closes
  rw [quoted, List.cons_append, List.cons_append, finish_step opened, List.append_assoc, finish_text,
    List.append_nil, List.singleton_append, finish_step ended]

/-- **A string as a value.** -/
theorem finish_quoted (text : String) (rest : List Char) :
    finish ⟨stack, .value⟩ (quoted text.toList ++ rest) =
      finish (close (.text (some text)) stack) rest := by
  refine finish_string ?_ rfl rest
  show some (close (.text (stringOf? _)) stack) = _
  rw [stringOf?_text, String.ofList_toList]

/-- **A string as a name**, the first of its record or a later one, with the colon after it. -/
theorem finish_name {done : List (Option String × Document)} {before : Option String}
    {outer : List Frame} {place : Place} (naming : place = .firstName ∨ place = .name) (name : String)
    (rest : List Char) :
    finish ⟨.record done before :: outer, place⟩ (quoted name.toList ++ ':' :: rest) =
      finish ⟨.record done (some name) :: outer, .value⟩ rest := by
  have opened : step ⟨.record done before :: outer, place⟩ '"' =
      some ⟨.record done before :: outer, .string true []⟩ := by
    rcases naming with rfl | rfl <;> rfl
  have closes : closeString true (name.toList.map Char.toNat).reverse (.record done before :: outer) =
      some ⟨.record done (some name) :: outer, .colon⟩ := by
    show some (⟨.record done (stringOf? _) :: outer, .colon⟩ : State) = _
    rw [stringOf?_text, String.ofList_toList]
  have colon : step ⟨.record done (some name) :: outer, .colon⟩ ':' =
      some ⟨.record done (some name) :: outer, .value⟩ := rfl
  rw [finish_string closes opened, finish_step colon]

/-! ### Numerals -/

theorem finish_numeral {numeric : List Char} (all : ∀ c ∈ numeric, isNumeric c = true)
    (seen rest : List Char) :
    finish ⟨stack, .numeral seen⟩ (numeric ++ rest) =
      finish ⟨stack, .numeral (numeric.reverse ++ seen)⟩ rest := by
  induction numeric generalizing seen with
  | nil => rfl
  | cons c others ih =>
    have more : step ⟨stack, .numeral seen⟩ c = some ⟨stack, .numeral (c :: seen)⟩ := by
      show (if isNumeric c = true then _ else _) = _
      rw [if_pos (all c List.mem_cons_self)]
    rw [List.cons_append, finish_step more,
      ih fun other member => all other (List.mem_cons_of_mem _ member), List.reverse_cons,
      List.append_assoc, List.singleton_append]

/-- After a value, and after a numeral that what follows cannot be part of, the same may come. -/
theorem finish_numeral_end {seen : List Char} {document : Document}
    (closes : closeNumeral seen stack = some (close document stack)) {rest : List Char}
    (ends : ∀ c ∈ rest.head?, isNumeric c = false) :
    finish ⟨stack, .numeral seen⟩ rest = finish (close document stack) rest := by
  cases rest with
  | nil =>
    have ended : result? ⟨stack, .numeral seen⟩ = result? (close document stack) := by
      unfold result?
      dsimp only
      rw [closes]
      rcases stack with _ | ⟨_ | _, _⟩ <;> rfl
    exact ended
  | cons c others =>
    have ended : step ⟨stack, .numeral seen⟩ c = step (close document stack) c := by
      show (if isNumeric c = true then _ else (closeNumeral seen stack).bind (follow · c)) = _
      rw [if_neg (Bool.eq_false_iff.mp (ends c rfl)), closes, Option.bind_some]
      rcases stack with _ | ⟨_ | _, _⟩ <;> rfl
    rw [finish_cons, ended, finish_cons]

theorem ne_of_startsNumeral {c other : Char} (starts : c = '-' ∨ c.isDigit = true)
    (noSign : other ≠ '-') (noDigit : other.isDigit = false) : c ≠ other := by
  rintro rfl
  rcases starts with sign | digit
  · exact noSign sign
  · rw [digit] at noDigit
    cases noDigit

theorem isSpace_of_startsNumeral {c : Char} (starts : c = '-' ∨ c.isDigit = true) :
    isSpace c = false := by
  have noBlank : c ≠ ' ' ∧ c ≠ '\n' ∧ c ≠ '\t' ∧ c ≠ '\r' :=
    ⟨ne_of_startsNumeral starts (by decide) (by decide),
      ne_of_startsNumeral starts (by decide) (by decide),
      ne_of_startsNumeral starts (by decide) (by decide),
      ne_of_startsNumeral starts (by decide) (by decide)⟩
  simpa [isSpace, and_assoc] using noBlank

theorem step_numeral {c : Char} (starts : c = '-' ∨ c.isDigit = true) :
    step ⟨stack, .value⟩ c = some ⟨stack, .numeral [c]⟩ := by
  have numeral : (c = '-' || c.isDigit) = true := by simpa using starts
  show (if isSpace c = true then _ else openValue c stack) = _
  rw [isSpace_of_startsNumeral starts, if_neg Bool.false_ne_true, openValue]
  -- the six other ways in which a value may begin
  iterate 6 rw [if_neg (ne_of_startsNumeral starts (by decide) (by decide))]
  rw [if_pos numeral]

/-- **A whole number of 64 bits.** -/
theorem finish_number {i : Int} (word : (Number.int i).IsWord) {rest : List Char}
    (ends : ∀ c ∈ rest.head?, isNumeric c = false) :
    finish ⟨stack, .value⟩ (Decimal.signedDigits i ++ rest) =
      finish (close (.number (some (.int i))) stack) rest := by
  -- the first character opens the numeral, and the others are collected
  obtain ⟨c, others, written, starts, digits⟩ := Decimal.signedDigits_eq_cons i
  have parsed := Numeral.parse?_signedDigits i
  rw [written] at parsed ⊢
  have numeric : ∀ c ∈ others, isNumeric c = true := by
    intro c member
    rw [isNumeric, digits c member]
    rfl
  have closes : closeNumeral (others.reverse ++ [c]) stack =
      some (close (.number (some (.int i))) stack) := by
    rw [closeNumeral, List.reverse_append, List.reverse_reverse, List.reverse_singleton,
      List.singleton_append, parsed, Option.map_some, Numeral.value?_digits word]
  rw [List.cons_append, finish_step (step_numeral starts), finish_numeral numeric,
    finish_numeral_end closes ends]

/-! ### Values -/

theorem notNumeric_head {c : Char} (other : isNumeric c = false) (rest : List Char) :
    ∀ d ∈ (c :: rest).head?, isNumeric d = false := by
  rintro _ ⟨⟩
  exact other

/-- No text of a value begins as if a list ended, or with a blank. -/
theorem write_eq_cons {value : Json} (exact : value.Exact) :
    ∃ c others, value.write = c :: others ∧ c ≠ ']' ∧ isSpace c = false := by
  match value with
  | .null => exact ⟨'n', _, rfl, by decide, rfl⟩
  | .bool true => exact ⟨'t', _, rfl, by decide, rfl⟩
  | .bool false => exact ⟨'f', _, rfl, by decide, rfl⟩
  | .text _ => exact ⟨'"', _, rfl, by decide, rfl⟩
  | .list _ => exact ⟨'[', _, rfl, by decide, rfl⟩
  | .record _ => exact ⟨'\x7b', _, rfl, by decide, rfl⟩
  | .number (.real x) => exact (exact (.real x) List.mem_cons_self).elim
  | .number (.int i) =>
    obtain ⟨c, others, written, starts, _⟩ := Decimal.signedDigits_eq_cons i
    exact ⟨c, others, written, ne_of_startsNumeral starts (by decide) (by decide),
      isSpace_of_startsNumeral starts⟩

theorem finish_firstItem {value : Json} (exact : value.Exact) (rest : List Char) :
    finish ⟨stack, .firstItem⟩ (value.write ++ rest) = finish ⟨stack, .value⟩ (value.write ++ rest) := by
  obtain ⟨c, others, written, noEnd, noSpace⟩ := write_eq_cons exact
  have same : step ⟨stack, .firstItem⟩ c = step ⟨stack, .value⟩ c := by
    show (if isSpace c = true then _ else if c = ']' then _ else openValue c stack) =
      (if isSpace c = true then _ else openValue c stack)
    rw [noSpace, if_neg noEnd]
    rfl
  rw [written, List.cons_append, finish_cons, finish_cons, same]

mutual

/-- **A value is read as it was written**: in any container, and before anything that does not go on with
a numeral, its text does what the value does. -/
theorem finish_write : (value : Json) → value.Exact → (stack : List Frame) → (rest : List Char) →
    (∀ c ∈ rest.head?, isNumeric c = false) →
    finish ⟨stack, .value⟩ (value.write ++ rest) = finish (close value.toDocument stack) rest
  | .null, _, _, _, _ => rfl
  | .bool true, _, _, _, _ => rfl
  | .bool false, _, _, _, _ => rfl
  | .number (.int i), exact, _, _, ends => finish_number (exact (.int i) List.mem_cons_self) ends
  | .number (.real x), exact, _, _, _ => (exact (.real x) List.mem_cons_self).elim
  | .text s, _, _, rest, _ => finish_quoted s rest
  | .list [], _, _, _, _ => rfl
  | .list (item :: others), exact, stack, rest, _ => by
    have each : ∀ each ∈ item :: others, each.Exact := exact_list_iff.mp exact
    have itemExact : item.Exact := each item List.mem_cons_self
    -- where the first item stands the list might also end, but no item begins as if it did
    have first : finish ⟨.list [] :: stack, .firstItem⟩ (writeItems (item :: others) ++ ']' :: rest) =
        finish ⟨.list [] :: stack, .value⟩ (writeItems (item :: others) ++ ']' :: rest) := by
      cases others with
      | nil => exact finish_firstItem itemExact _
      | cons next more =>
        rw [writeItems, List.append_assoc]
        · exact finish_firstItem itemExact _
        · exact nofun
    have whole := finish_writeItems (item :: others) (List.cons_ne_nil _ _) each [] stack rest
    rw [write, List.cons_append, List.cons_append, List.append_assoc]
    exact first.trans whole
  | .record [], _, _, _, _ => rfl
  | .record (member :: others), exact, stack, rest, _ => by
    have whole := finish_writeMembers (member :: others) (List.cons_ne_nil _ _)
      (exact_record_iff.mp exact) [] none .firstName (.inl rfl) stack rest
    rw [write, List.cons_append, List.cons_append, List.append_assoc]
    exact whole

/-- Items in the order in which they stand, after those of the list that are done. -/
theorem finish_writeItems : (items : List Json) → items ≠ [] →
    (∀ item ∈ items, item.Exact) → (done : List Document) → (outer : List Frame) →
    (rest : List Char) →
    finish ⟨.list done :: outer, .value⟩ (writeItems items ++ ']' :: rest) =
      finish (close (.list (done.reverse ++ itemsToDocuments items)) outer) rest
  | [], nonempty, _, _, _, _ => absurd rfl nonempty
  | [item], _, each, done, outer, rest => by
    have itemExact : item.Exact := each item List.mem_cons_self
    have ends : finish (close item.toDocument (.list done :: outer)) (']' :: rest) =
        finish (close (.list (item.toDocument :: done).reverse) outer) rest := rfl
    rw [writeItems, finish_write item itemExact _ _ (notNumeric_head rfl _), ends, List.reverse_cons]
    rfl
  | item :: next :: more, _, each, done, outer, rest => by
    have itemExact : item.Exact := each item List.mem_cons_self
    have others : ∀ item ∈ next :: more, item.Exact :=
      fun other member => each other (List.mem_cons_of_mem _ member)
    have comma : ∀ rest, finish (close item.toDocument (.list done :: outer)) (',' :: rest) =
        finish ⟨.list (item.toDocument :: done) :: outer, .value⟩ rest := fun _ => rfl
    rw [writeItems, List.append_assoc, List.cons_append,
      finish_write item itemExact _ _ (notNumeric_head rfl _), comma, finish_writeItems (next :: more) (List.cons_ne_nil _ _) others,
      List.reverse_cons, List.append_assoc]
    · rfl
    · exact nofun

/-- Members in the order in which they stand, after those of the record that are done. -/
theorem finish_writeMembers : (members : List (String × Json)) → members ≠ [] →
    (∀ member ∈ members, member.2.Exact) → (done : List (Option String × Document)) →
    (before : Option String) → (place : Place) → (place = .firstName ∨ place = .name) →
    (outer : List Frame) → (rest : List Char) →
    finish ⟨.record done before :: outer, place⟩ (writeMembers members ++ '\x7d' :: rest) =
      finish (close (.record (done.reverse ++ membersToDocuments members)) outer) rest
  | [], nonempty, _, _, _, _, _, _, _ => absurd rfl nonempty
  | [(name, value)], _, each, done, _, _, naming, outer, rest => by
    have valueExact : value.Exact := each (name, value) List.mem_cons_self
    have ends : finish (close value.toDocument (.record done (some name) :: outer)) ('\x7d' :: rest) =
        finish (close (.record ((some name, value.toDocument) :: done).reverse) outer) rest := rfl
    rw [writeMembers, List.append_assoc, List.cons_append, finish_name naming,
      finish_write value valueExact _ _ (notNumeric_head rfl _), ends, List.reverse_cons]
    rfl
  | (name, value) :: next :: more, _, each, done, _, _, naming, outer, rest => by
    have valueExact : value.Exact := each (name, value) List.mem_cons_self
    have others : ∀ member ∈ next :: more, member.2.Exact :=
      fun other member => each other (List.mem_cons_of_mem _ member)
    have comma : ∀ rest, finish (close value.toDocument (.record done (some name) :: outer))
        (',' :: rest) =
          finish ⟨.record ((some name, value.toDocument) :: done) none :: outer, .name⟩ rest :=
      fun _ => rfl
    rw [writeMembers, List.append_assoc, List.append_assoc, List.cons_append, List.cons_append,
      finish_name naming, finish_write value valueExact _ _ (notNumeric_head rfl _), comma,
      finish_writeMembers (next :: more) (List.cons_ne_nil _ _) others _ _ _ (.inr rfl),
      List.reverse_cons, List.append_assoc]
    · rfl
    · exact nofun

end

end Reader

end Json

/-- **The text of a value is a document, and it is that of the value.** -/
theorem Document.read?_write {value : Json} (exact : value.Exact) :
    Document.read? value.write = some value.toDocument := by
  have whole := Json.Reader.finish_write value exact [] [] (by exact nofun)
  rw [List.append_nil] at whole
  exact whole

end HostDashboard
