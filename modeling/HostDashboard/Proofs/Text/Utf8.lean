/-
**Reading UTF-8 undoes writing it.**

The reader goes octet by octet and keeps bounds for the next one, which shut out overlong forms and
surrogates. A character that was written stays within them because a `Char` is no surrogate and its first
octet fixes the range that it comes from. `lead_two`, `lead_three` and `lead_four` give the bounds after
each kind of first octet; `decodeFrom_encodeChar` reads one character, `decode_encode` a text.

The order of strings, which is that of their code points, is the order of their octets (`encode_lt_encode`).
-/

import HostDashboard.Text.Utf8
import Mathlib.Tactic.SplitIfs

namespace HostDashboard.Text.Utf8

/-! ### First octets -/

theorem lead_one {n : Nat} (small : n < 0x80) : lead n = ([Char.ofNat n], .start) := by
  rw [lead, if_pos small]

theorem lead_two {high : Nat} (notOverlong : 2 ≤ high) (fits : high < 32) :
    lead (0xC0 + high) = ([], .within 1 0x80 0xBF high) := by
  rw [lead, if_neg (by omega), if_pos (by omega), Nat.add_sub_cancel_left]

theorem lead_three {high : Nat} (fits : high < 16) :
    lead (0xE0 + high) =
      ([], .within 2 (if high = 0 then 0xA0 else 0x80) (if high = 13 then 0x9F else 0xBF) high) := by
  unfold lead
  rw [if_neg (by omega), if_neg (by omega)]
  by_cases zero : high = 0
  · subst zero
    rfl
  by_cases surrogates : high = 13
  · subst surrogates
    rfl
  rw [if_neg (by omega), if_neg (by omega), if_pos (by omega), if_neg zero, if_neg surrogates,
    Nat.add_sub_cancel_left]

theorem lead_four {high : Nat} (fits : high < 5) :
    lead (0xF0 + high) =
      ([], .within 3 (if high = 0 then 0x90 else 0x80) (if high = 4 then 0x8F else 0xBF) high) := by
  have each : ∀ high : Fin 5, lead (0xF0 + high) =
      ([], .within 3 (if high.val = 0 then 0x90 else 0x80) (if high.val = 4 then 0x8F else 0xBF)
        high) := by
    decide
  exact each ⟨high, fits⟩

/-! ### One octet after another -/

theorem toNat_ofNat {n : Nat} (fits : n < 256) : (UInt8.ofNat n).toNat = n := by
  rw [UInt8.toNat_ofNat']
  exact Nat.mod_eq_of_lt fits

theorem decodeFrom_lead {n : Nat} (fits : n < 256) (rest : List UInt8) :
    decodeFrom .start (.ofNat n :: rest) = (lead n).1 ++ decodeFrom (lead n).2 rest := by
  rw [decodeFrom, toNat_ofNat fits, step]

/-- An octet that is owed, with more to come after it. -/
theorem decodeFrom_within {owed low high value bits : Nat} (more : 1 < owed) (fits : bits < 64)
    (above : low ≤ 0x80 + bits) (below : 0x80 + bits ≤ high) (rest : List UInt8) :
    decodeFrom (.within owed low high value) (.ofNat (0x80 + bits) :: rest) =
      decodeFrom (.within (owed - 1) 0x80 0xBF (value * 64 + bits)) rest := by
  rw [decodeFrom, toNat_ofNat (by omega), step, if_pos ⟨above, below⟩, if_neg (by omega),
    Nat.add_sub_cancel_left, List.nil_append]

/-- The last octet that is owed. -/
theorem decodeFrom_last {low high value bits : Nat} (fits : bits < 64)
    (above : low ≤ 0x80 + bits) (below : 0x80 + bits ≤ high) (rest : List UInt8) :
    decodeFrom (.within 1 low high value) (.ofNat (0x80 + bits) :: rest) =
      Char.ofNat (value * 64 + bits) :: decodeFrom .start rest := by
  rw [decodeFrom, toNat_ofNat (by omega), step, if_pos ⟨above, below⟩, if_pos (by omega),
    Nat.add_sub_cancel_left, List.singleton_append]

/-! ### Characters and texts -/

/-- **A character that was written is read.** -/
theorem decodeFrom_encodeChar (c : Char) (rest : List UInt8) :
    decodeFrom .start (encodeChar c ++ rest) = c :: decodeFrom .start rest := by
  have valid : c.toNat < 0xD800 ∨ (0xDFFF < c.toNat ∧ c.toNat < 0x110000) := c.valid
  have same : Char.ofNat c.toNat = c := Char.ofNat_toNat c
  rw [encodeChar]
  generalize c.toNat = n at valid same
  subst same
  split
  · next one =>
    rw [List.singleton_append, decodeFrom_lead (by omega), lead_one one, List.singleton_append]
  split
  · next two =>
    have value : n / 64 * 64 + n % 64 = n := by omega
    rw [List.cons_append, List.cons_append, List.nil_append, decodeFrom_lead (by omega),
      lead_two (by omega) (by omega), List.nil_append,
      decodeFrom_last (by omega) (by omega) (by omega), value]
  split
  · next three =>
    have value : (n / 4096 * 64 + n / 64 % 64) * 64 + n % 64 = n := by omega
    rw [List.cons_append, List.cons_append, List.cons_append, List.nil_append,
      decodeFrom_lead (by omega), lead_three (by omega), List.nil_append,
      decodeFrom_within (by omega) (by omega) (by split <;> omega) (by split <;> omega),
      decodeFrom_last (by omega) (by omega) (by omega), value]
  · next four =>
    have value : ((n / 262144 * 64 + n / 4096 % 64) * 64 + n / 64 % 64) * 64 + n % 64 = n := by omega
    rw [List.cons_append, List.cons_append, List.cons_append, List.cons_append, List.nil_append,
      decodeFrom_lead (by omega), lead_four (by omega), List.nil_append,
      decodeFrom_within (by omega) (by omega) (by split <;> omega) (by split <;> omega),
      decodeFrom_within (by omega) (by omega) (by omega) (by omega),
      decodeFrom_last (by omega) (by omega) (by omega), value]

theorem encodeChar_ascii {c : Char} (ascii : c.toNat < 0x80) :
    encodeChar c = [.ofNat c.toNat] := by
  rw [encodeChar, if_pos ascii]

theorem encode_append (first second : List Char) :
    encode (first ++ second) = encode first ++ encode second := List.flatMap_append

/-- **Reading undoes writing.** -/
@[simp] theorem decode_encode (text : List Char) : decode (encode text) = text := by
  unfold decode encode
  induction text with
  | nil => rfl
  | cons c rest ih => rw [List.flatMap_cons, decodeFrom_encodeChar, ih]

/-! ### Order -/

theorem cons_lt_cons {low high : Nat} (lowFits : low < 256) (highFits : high < 256)
    (first second : List UInt8) :
    UInt8.ofNat low :: first < UInt8.ofNat high :: second ↔
      low < high ∨ low = high ∧ first < second := by
  rw [List.cons_lt_cons_iff, UInt8.lt_iff_toNat_lt, ← UInt8.toNat_inj, toNat_ofNat lowFits,
    toNat_ofNat highFits]

/-- **A lower character has lower octets**, whatever follows. The first octet is the greater the longer the
character is written, and at one length the octets are the digits of the code point to the base 64. -/
theorem encodeChar_append_lt {first second : Char} (less : first < second) (rest other : List UInt8) :
    encodeChar first ++ rest < encodeChar second ++ other := by
  have below : first.toNat < second.toNat := less
  have top : second.toNat < 0x110000 := by
    rcases second.valid with low | ⟨_, high⟩
    · exact Nat.lt_trans low (by decide)
    · exact high
  unfold encodeChar
  -- One goal for each pair of lengths; shorter against longer is decided by the first octet.
  generalize first.toNat = m at below
  generalize second.toNat = n at below top
  dsimp only
  split_ifs <;> simp (disch := omega) only [List.cons_append, List.nil_append, cons_lt_cons] <;> omega

theorem encodeChar_ne_nil (c : Char) : encodeChar c ≠ [] := by
  unfold encodeChar
  dsimp only
  split_ifs <;> exact List.cons_ne_nil _ _

/-- **Texts stand in the order of their octets.** -/
theorem encode_lt_encode {first second : List Char} (less : first < second) :
    encode first < encode second := by
  induction first generalizing second with
  | nil =>
    cases second with
    | nil => exact absurd less (List.lt_irrefl [])
    | cons c rest =>
      obtain ⟨octet, octets, written⟩ := List.exists_cons_of_ne_nil (encodeChar_ne_nil c)
      rw [encode, encode, List.flatMap_cons, written]
      exact List.nil_lt_cons octet _
  | cons c rest ih =>
    cases second with
    | nil => exact absurd less (List.not_lt_nil _)
    | cons d other =>
      rw [encode, encode, List.flatMap_cons, List.flatMap_cons]
      rcases List.cons_lt_cons_iff.mp less with below | ⟨rfl, later⟩
      · exact encodeChar_append_lt below _ _
      · exact List.append_left_lt (ih later)

theorem encode_lt_encode_iff {first second : List Char} :
    encode first < encode second ↔ first < second := by
  refine ⟨fun less => List.not_le.mp fun other => ?_, encode_lt_encode⟩
  rcases List.le_iff_lt_or_eq.mp other with below | rfl
  · exact List.lt_asymm less (encode_lt_encode below)
  · exact List.lt_irrefl _ less

theorem encode_le_encode_iff {first second : List Char} :
    encode first ≤ encode second ↔ ¬ second < first := by
  rw [← List.not_lt, encode_lt_encode_iff]

end HostDashboard.Text.Utf8
