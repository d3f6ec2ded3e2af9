/-
**Form-urlencoded pairs are read as they were written.**

Reading turns plus signs into spaces before it undoes the escapes, so a plus sign that was written as an
escape is safe. No written name or value holds `&` or `=` (`isWritten_of_mem_encode`), so the pairs are
cut where they were joined.

* `Percent.decode_escape`: a text with escapes;
* `decode_encode`: one name or value;
* `pairs_write`: any list of pairs;
* `pairs_append`: a `&` between two texts keeps their pairs apart, and so between any number of texts
  (`pairs_joined`).
-/

import HostDashboard.Proofs.Text.Pieces
import HostDashboard.Proofs.Text.Utf8
import HostDashboard.Text.Escape

namespace HostDashboard.Text

/-! ### Escapes undone -/

namespace Percent

theorem unescape_cons {octet : UInt8} (plain : octet ≠ 0x25) (rest : List UInt8) :
    unescape (octet :: rest) = octet :: unescape rest := by
  match rest with
  | [] => rfl
  | [_] => rfl
  | first :: second :: rest =>
    show unescapeOnly _ (octet :: first :: second :: rest) = _
    rw [unescapeOnly, if_neg plain]
    rfl

theorem upper_ascii {n : Nat} (digit : n < 16) : (Hexadecimal.upper n).toNat < 0x80 := by
  have each : ∀ n : Fin 16, (Hexadecimal.upper n).toNat < 0x80 := by decide
  exact each ⟨n, digit⟩

theorem digitValue?_upper {n : Nat} (digit : n < 16) :
    digitValue? (.ofNat (Hexadecimal.upper n).toNat) = some n := by
  have ascii := upper_ascii digit
  rw [digitValue?, Utf8.toNat_ofNat (by omega), Char.ofNat_toNat]
  exact Hexadecimal.value_upper ⟨n, digit⟩

/-- **An escape gives its octet.** -/
theorem unescape_escapeOctet (octet : UInt8) (rest : List UInt8) :
    unescape (Utf8.encode (escapeOctet octet) ++ rest) = octet :: unescape rest := by
  have bound := octet.toNat_lt
  have high : octet.toNat / 16 < 16 := by omega
  have low : octet.toNat % 16 < 16 := by omega
  have written : Utf8.encode (escapeOctet octet) =
      [0x25, .ofNat (Hexadecimal.upper (octet.toNat / 16)).toNat,
        .ofNat (Hexadecimal.upper (octet.toNat % 16)).toNat] := by
    unfold Utf8.encode escapeOctet
    rw [List.flatMap_cons, List.flatMap_cons, List.flatMap_cons, List.flatMap_nil,
      Utf8.encodeChar_ascii (upper_ascii high), Utf8.encodeChar_ascii (upper_ascii low)]
    rfl
  have value : pairValue? (.ofNat (Hexadecimal.upper (octet.toNat / 16)).toNat)
      (.ofNat (Hexadecimal.upper (octet.toNat % 16)).toNat) = some octet := by
    unfold pairValue?
    rw [digitValue?_upper high, digitValue?_upper low]
    show some (UInt8.ofNat (octet.toNat / 16 * 16 + octet.toNat % 16)) = some octet
    rw [Nat.div_add_mod', UInt8.ofNat_toNat]
  rw [written]
  show unescapeOnly _ (0x25 :: _ :: _ :: rest) = _
  rw [unescapeOnly, if_pos rfl, value]
  rfl

theorem unescape_escapeOctets (octets rest : List UInt8) :
    unescape (Utf8.encode (octets.flatMap escapeOctet) ++ rest) = octets ++ unescape rest := by
  induction octets with
  | nil => rfl
  | cons octet others ih =>
    rw [List.flatMap_cons, Utf8.encode_append, List.append_assoc, unescape_escapeOctet, ih]
    rfl

/-- A character that stands for itself gives its octet, unless it is a percent sign. -/
theorem unescape_ascii {c : Char} (ascii : c.toNat < 0x80) (other : c ≠ '%') (rest : List UInt8) :
    unescape (Utf8.encodeChar c ++ rest) = Utf8.encodeChar c ++ unescape rest := by
  have notPercent : UInt8.ofNat c.toNat ≠ 0x25 := by
    intro same
    have value := congrArg UInt8.toNat same
    rw [Utf8.toNat_ofNat (by omega)] at value
    exact other (Char.toNat_inj.mp value : c = '%')
  rw [Utf8.encodeChar_ascii ascii, List.singleton_append, unescape_cons notPercent,
    List.singleton_append]

/-- **A text with escapes is read as it was**, if only ASCII characters stand for themselves, and the percent
sign does not. -/
theorem decode_escape {plain : Char → Bool}
    (single : ∀ c, plain c = true → c.toNat < 0x80 ∧ c ≠ '%') (source : List Char) :
    decode (escape plain source) = source := by
  have octets : unescape (Utf8.encode (escape plain source)) = Utf8.encode source := by
    induction source with
    | nil => rfl
    | cons c rest ih =>
      show unescape (Utf8.encode ((if plain c then [c] else escapeChar c) ++ escape plain rest)) =
        Utf8.encodeChar c ++ Utf8.encode rest
      rw [Utf8.encode_append]
      by_cases itself : plain c = true
      · obtain ⟨ascii, other⟩ := single c itself
        rw [if_pos itself]
        show unescape (Utf8.encodeChar c ++ [] ++ Utf8.encode (escape plain rest)) = _
        rw [List.append_nil, unescape_ascii ascii other, ih]
      · rw [if_neg itself, escapeChar, unescape_escapeOctets, ih]
  rw [decode, octets, Utf8.decode_encode]

end Percent

namespace Form

/-! ### The characters of written names and values -/

/-- A character that written names and values are made of. -/
def isWritten (c : Char) : Bool := isPlain c || c = '+' || c = '%'

theorem isPlain_upper {n : Nat} (digit : n < 16) : isPlain (Hexadecimal.upper n) = true := by
  have each : ∀ n : Fin 16, isPlain (Hexadecimal.upper n) = true := by decide
  exact each ⟨n, digit⟩

theorem isWritten_of_mem_escapeOctet {octet : UInt8} {c : Char}
    (member : c ∈ Percent.escapeOctet octet) : isWritten c = true := by
  have bound := octet.toNat_lt
  unfold Percent.escapeOctet at member
  rw [List.mem_cons, List.mem_cons, List.mem_singleton] at member
  rcases member with rfl | rfl | rfl
  · rfl
  · rw [isWritten, isPlain_upper (by omega)]
    rfl
  · rw [isWritten, isPlain_upper (by omega)]
    rfl

theorem isWritten_of_mem_encode {source : List Char} {c : Char} (member : c ∈ encode source) :
    isWritten c = true := by
  obtain ⟨original, _, inside⟩ := List.mem_flatMap.mp member
  unfold encodeChar at inside
  split at inside
  · next plain =>
    rw [List.mem_singleton.mp inside, isWritten, plain]
    rfl
  · split at inside
    · rw [List.mem_singleton.mp inside]
      rfl
    · obtain ⟨octet, _, inside⟩ := List.mem_flatMap.mp inside
      exact isWritten_of_mem_escapeOctet inside

/-- What is not written stands in no name and no value. -/
theorem notMem_encode {separator : Char} (notWritten : isWritten separator = false)
    (source : List Char) : separator ∉ encode source := by
  intro member
  rw [isWritten_of_mem_encode member] at notWritten
  cases notWritten

/-! ### One name or value -/

/-- A space for a plus sign. -/
def unplus (c : Char) : Char := if c = '+' then ' ' else c

theorem unplus_of_ne {c : Char} (other : c ≠ '+') : unplus c = c := if_neg other

theorem decode_eq (source : List Char) : decode source = Percent.decode (source.map unplus) := rfl

theorem isPlain_ascii {c : Char} (plain : isPlain c = true) : c.toNat < 0x80 := by
  have alphanum : c.isAlphanum =
      ((decide (c.val ≥ 'A'.val ∧ c.val ≤ 'Z'.val) || (c.val ≥ 'a'.val && c.val ≤ 'z'.val)) ||
        (c.val ≥ '0'.val && c.val ≤ '9'.val)) := rfl
  rw [isPlain, alphanum] at plain
  simp only [Bool.or_eq_true, Bool.and_eq_true, decide_eq_true_eq, UInt32.le_iff_toNat_le] at plain
  rcases plain with ((((((upper | lower) | digit) | rfl) | rfl) | rfl) | rfl)
  · exact Nat.lt_of_le_of_lt upper.2 (by decide)
  · exact Nat.lt_of_le_of_lt lower.2 (by decide)
  · exact Nat.lt_of_le_of_lt digit.2 (by decide)
  all_goals decide

theorem ne_of_isPlain {c other : Char} (plain : isPlain c = true) (notPlain : isPlain other = false) :
    c ≠ other := by
  rintro rfl
  rw [plain] at notPlain
  cases notPlain

/-- An escape holds no plus sign. -/
theorem map_unplus_escapeChar (c : Char) :
    (Percent.escapeChar c).map unplus = Percent.escapeChar c := by
  unfold Percent.escapeChar
  rw [List.map_flatMap]
  congr 1
  funext octet
  have bound := octet.toNat_lt
  have high : Hexadecimal.upper (octet.toNat / 16) ≠ '+' :=
    ne_of_isPlain (isPlain_upper (by omega)) rfl
  have low : Hexadecimal.upper (octet.toNat % 16) ≠ '+' :=
    ne_of_isPlain (isPlain_upper (by omega)) rfl
  unfold Percent.escapeOctet
  rw [List.map_cons, List.map_cons, List.map_singleton, unplus_of_ne high, unplus_of_ne low]
  rfl

/-- **Of one character**: the octets that it is encoded in. -/
theorem unescape_encodeChar (c : Char) (rest : List UInt8) :
    Percent.unescape (Utf8.encode ((encodeChar c).map unplus) ++ rest) =
      Utf8.encodeChar c ++ Percent.unescape rest := by
  by_cases plain : isPlain c = true
  · rw [encodeChar, if_pos plain, List.map_singleton, unplus_of_ne (ne_of_isPlain plain rfl)]
    show Percent.unescape (Utf8.encodeChar c ++ [] ++ rest) = _
    rw [List.append_nil, Percent.unescape_ascii (isPlain_ascii plain) (ne_of_isPlain plain rfl)]
  · by_cases space : c = ' '
    · subst space
      exact Percent.unescape_cons (by decide) rest
    · rw [encodeChar, if_neg plain, if_neg space, map_unplus_escapeChar, Percent.escapeChar,
        Percent.unescape_escapeOctets]

/-- **A name or value is read as it was written.** -/
@[simp] theorem decode_encode (source : List Char) : decode (encode source) = source := by
  have octets : Percent.unescape (Utf8.encode ((encode source).map unplus)) = Utf8.encode source := by
    induction source with
    | nil => rfl
    | cons c rest ih =>
      show Percent.unescape (Utf8.encode ((encodeChar c ++ encode rest).map unplus)) =
        Utf8.encodeChar c ++ Utf8.encode rest
      rw [List.map_append, Utf8.encode_append, unescape_encodeChar, ih]
  rw [decode_eq, Percent.decode, octets, Utf8.decode_encode]

/-! ### Pairs -/

def writePair (pair : List Char × List Char) : List Char := encode pair.1 ++ '=' :: encode pair.2

theorem notMem_writePair (pair : List Char × List Char) : '&' ∉ writePair pair := by
  rw [writePair, List.mem_append, List.mem_cons, not_or, not_or]
  exact ⟨notMem_encode rfl _, by decide, notMem_encode rfl _⟩

theorem pairOf_writePair (pair : List Char × List Char) : pairOf (writePair pair) = pair := by
  rw [pairOf, writePair, cut_append (notMem_encode rfl _), decode_encode, Option.getD_some,
    decode_encode]

/-- **Pairs are read as they were written.** -/
@[simp] theorem pairs_write (written : List (List Char × List Char)) :
    pairs (write written) = written := by
  by_cases none : written = []
  · subst none
    rfl
  have cut : pieces '&' (write written) = written.map writePair := by
    refine pieces_intercalate (fun nil => none (List.map_eq_nil_iff.mp nil)) fun piece member => ?_
    obtain ⟨pair, _, rfl⟩ := List.mem_map.mp member
    exact notMem_writePair pair
  have kept : ∀ piece ∈ written.map writePair, (!piece.isEmpty) = true := by
    intro piece member
    obtain ⟨pair, _, rfl⟩ := List.mem_map.mp member
    unfold writePair
    cases encode pair.1 <;> rfl
  rw [pairs, cut, List.filter_eq_self.mpr kept, List.map_map]
  exact List.map_id'' pairOf_writePair written

/-- **A `&` keeps the pairs before it and those after it apart.** -/
theorem pairs_append (first second : List Char) :
    pairs (first ++ '&' :: second) = pairs first ++ pairs second := by
  rw [pairs, pieces_append, List.filter_append, List.map_append]
  rfl

/-- The pairs of texts with `&` between them are the pairs of each. -/
theorem pairs_joined (texts : List (List Char)) :
    pairs (['&'].intercalate texts) = texts.flatMap pairs := by
  induction texts with
  | nil => rfl
  | cons text rest ih =>
    cases rest with
    | nil => rw [List.intercalate_singleton, List.flatMap_singleton]
    | cons next others =>
      rw [List.intercalate_cons_cons, List.append_assoc, List.singleton_append, pairs_append, ih]
      rfl

/-- A text without `&` is one pair, unless it is empty. -/
theorem pairs_of_notMem {text : List Char} (whole : '&' ∉ text) :
    pairs text = if text.isEmpty then [] else [pairOf text] := by
  rw [pairs, pieces_of_notMem whole]
  cases text <;> rfl

end Form

end HostDashboard.Text
