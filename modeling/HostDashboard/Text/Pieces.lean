/-
**Trimming and cutting texts.**

A character is blank when Unicode gives it the property White_Space; the ten ranges are listed. Trimming
works on lists of characters, with one wrapper on strings; cutting is done at a character:

* `trimStart` and `trimEnd` drop the blanks at one end, `trim` at both;
* `pieces` cuts at every occurrence, and always gives at least one piece;
* `cut` cuts at the first one, and tells whether there was one;
* `pieces_ne_nil`, `intercalate_pieces`: nothing but the separators is lost.
-/

namespace HostDashboard.Text

/-! ### Blanks -/

/-- A character lies in one of some inclusive ranges of code points. -/
def inRanges (ranges : List (Nat × Nat)) (c : Char) : Bool :=
  ranges.any fun range => range.1 ≤ c.toNat && c.toNat ≤ range.2

/-- The code points with the property White_Space. -/
def blankRanges : List (Nat × Nat) :=
  [(0x9, 0xD), (0x20, 0x20), (0x85, 0x85), (0xA0, 0xA0), (0x1680, 0x1680), (0x2000, 0x200A),
   (0x2028, 0x2029), (0x202F, 0x202F), (0x205F, 0x205F), (0x3000, 0x3000)]

/-- A character has the property White_Space. -/
def isBlank (c : Char) : Bool := inRanges blankRanges c

/-- The text without its leading blanks. -/
def trimStart (text : List Char) : List Char := text.dropWhile isBlank

/-- The text without its trailing blanks. -/
def trimEnd (text : List Char) : List Char := (text.reverse.dropWhile isBlank).reverse

/-- The text without the blanks at either end. -/
def trim (text : List Char) : List Char := trimEnd (trimStart text)

/-- A string without the blanks at either end. -/
def trimmed (text : String) : String := String.ofList (trim text.toList)

/-- A string has no character but blanks. -/
def isBlankText (text : String) : Bool := text.toList.all isBlank

/-! ### Pieces -/

/-- The pieces between the occurrences of a separator. -/
def pieces (separator : Char) : List Char → List (List Char)
  | [] => [[]]
  | c :: rest =>
    if c = separator then [] :: pieces separator rest
    else match pieces separator rest with
      | [] => [[c]]
      | piece :: others => (c :: piece) :: others

/-- What stands before the first separator, and what follows it if there is one. -/
def cut (separator : Char) : List Char → List Char × Option (List Char)
  | [] => ([], none)
  | c :: rest =>
    if c = separator then ([], some rest)
    else ((c :: (cut separator rest).1), (cut separator rest).2)

/-- There is always a piece. -/
theorem pieces_ne_nil (separator : Char) (text : List Char) : pieces separator text ≠ [] := by
  cases text with
  | nil => simp [pieces]
  | cons c rest =>
    rw [pieces]
    split
    · simp
    · split <;> simp

/-- The pieces with the separator between them are the text. -/
theorem intercalate_pieces (separator : Char) (text : List Char) :
    [separator].intercalate (pieces separator text) = text := by
  induction text with
  | nil => rfl
  | cons c rest whole =>
    rw [pieces]
    split
    · next same =>
      match found : pieces separator rest with
      | [] => exact absurd found (pieces_ne_nil separator rest)
      | piece :: others =>
        rw [found] at whole
        simp_all [List.intercalate, List.intersperse]
    · match found : pieces separator rest with
      | [] => exact absurd found (pieces_ne_nil separator rest)
      | [piece] => simp_all [List.intercalate]
      | piece :: next :: others => simp_all [List.intercalate]

end HostDashboard.Text
