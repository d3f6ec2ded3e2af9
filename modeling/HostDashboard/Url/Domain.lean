/-
**Domain names in ASCII.**

A name is mapped character by character and cut into labels at its dots; a label with characters
beyond ASCII is written in Punycode behind `xn--`. A label that already begins so must be what its
own decoding is written as. A label must not begin with a mark or hold a stray joiner; controls,
blanks and the delimiters of links are refused.

A letter that is followed by a mark is the same letter as one that has the mark built in, if there is
one. Names are written with the marks built in:

* `compositions` lists for some marks the letters that can have them, and what they become;
* `compose` builds in every mark that can be, from left to right.

What is left out:

* The marks and pairs listed are those of Latin, Greek, Cyrillic, Arabic and kana, and `markRanges` has the
  marks of the main blocks. Hangul syllables are not put together, nor are letters of the Indic scripts;
  several marks behind one letter are not put in order, and no letter is taken apart first.
* A joiner is taken only behind a mark that takes a vowel (`joinersStand`). The zero-width non-joiner may
  also stand between letters that join, and there it is refused.
* Labels with letters that are written from right to left are not held to the rule on their direction.
* A character that no table of `HostDashboard.Url.Mapping` lists stands for itself; its header says which
  are missing.
-/

import HostDashboard.Text.Pieces
import HostDashboard.Url.Mapping
import HostDashboard.Url.Punycode

namespace HostDashboard.Url.Domain

/-! ### Letters with marks -/

/-- Marks, the letters in front of them, and in the same order the letters that have them built in. -/
def compositions : List (Nat × String × String) :=
  [(0x300, "aeiouünеиēōwâăêôơưyἀἁἐἑἠἡἰἱὀὁὐὑὠὡαεη", "àèìòùǜǹѐѝḕṑẁầằềồờừỳἂἃἒἓἢἣἲἳὂὃὒὓὢὣὰὲὴ"),
   (0x300, "ιουωϊϋ", "ὶὸὺὼῒῢ"),
   (0x301, "aeiouyclnrszügåæøϊαεηιϋουωгкçēïkmõōp", "áéíóúýćĺńŕśźǘǵǻǽǿΐάέήίΰόύώѓќḉḗḯḱḿṍṓṕ"),
   (0x301, "ũwâăêôơưἀἁἐἑἠἡἰἱὀὁὐὑὠὡ", "ṹẃấắếốớứἄἅἔἕἤἥἴἵὄὅὔὕὤὥ"),
   (0x302, "aeioucghjswyzạẹọ", "âêîôûĉĝĥĵŝŵŷẑậệộ"),
   (0x303, "anoiuvâăeêôơưy", "ãñõĩũṽẫẵẽễỗỡữỹ"),
   (0x304, "aeiouüäȧæǫöõȯyиуgḷṛαιυ", "āēīōūǖǟǡǣǭȫȭȱȳӣӯḡḹṝᾱῑῡ"),
   (0x306, "aegiouиужаеȩạαιυ", "ăĕğĭŏŭйўӂӑӗḝặᾰῐῠ"),
   (0x307, "cegzaobdfhmnprsśšṣtwxy", "ċėġżȧȯḃḋḟḣṁṅṗṙṡṥṧṩṫẇẋẏ"),
   (0x308, "aeiouyιυеіаәжзиоөэучыhõūwxt", "äëïöüÿϊϋёїӓӛӝӟӥӧӫӭӱӵӹḧṏṻẅẍẗ"),
   (0x309, "aâăeêioôơuưy", "ảẩẳẻểỉỏổởủửỷ"),
   (0x30A, "auwy", "åůẘẙ"),
   (0x30B, "ouу", "őűӳ"),
   (0x30C, "cdelnrstzaiouügkʒjh", "čďěľňřšťžǎǐǒǔǚǧǩǯǰȟ"),
   (0x30F, "aeioruѵ", "ȁȅȉȍȑȕѷ"),
   (0x311, "aeioru", "ȃȇȋȏȓȗ"),
   (0x313, "αεηιουωρ", "ἀἐἠἰὀὐὠῤ"),
   (0x314, "αεηιουωρ", "ἁἑἡἱὁὑὡῥ"),
   (0x31B, "ou", "ơư"),
   (0x323, "bdhklmnrstvwzaeioơuưy", "ḅḍḥḳḷṃṇṛṣṭṿẉẓạẹịọợụựỵ"),
   (0x324, "u", "ṳ"),
   (0x325, "a", "ḁ"),
   (0x326, "st", "șț"),
   (0x327, "cgklnrstedh", "çģķļņŗşţȩḑḩ"),
   (0x328, "aeiuo", "ąęįųǫ"),
   (0x32D, "delntu", "ḓḙḽṋṱṷ"),
   (0x32E, "h", "ḫ"),
   (0x330, "eiu", "ḛḭṵ"),
   (0x331, "bdklnrtzh", "ḇḏḵḻṉṟṯẕẖ"),
   (0x342, "ἀἁἠἡἰἱὐὑὠὡαηιϊυϋω", "ἆἇἦἧἶἷὖὗὦὧᾶῆῖῗῦῧῶ"),
   (0x653, "ا", "آ"),
   (0x654, "اويەہے", "أؤئۀۂۓ"),
   (0x655, "ا", "إ"),
   (0x3099, "かきくけこさしすせそたちつてとはひふへほうゝカキクケコサシスセソタチツテ", "がぎぐげござじずぜぞだぢづでどばびぶべぼゔゞガギグゲゴザジズゼゾダヂヅデ"),
   (0x3099, "トハヒフヘホウワヰヱヲヽ", "ドバビブベボヴヷヸヹヺヾ"),
   (0x309A, "はひふへほハヒフヘホ", "ぱぴぷぺぽパピプペポ")]

/-- The letter that a letter and a mark make. -/
def composition? (letter mark : Char) : Option Char :=
  compositions.findSome? fun (code, letters, composed) =>
    if code = mark.toNat then (letters.toList.zip composed.toList).lookup letter else none

/-- Puts a character in front of a text whose marks belong to the characters before them. -/
def composeFrom (letter : Char) : List Char → List Char
  | [] => [letter]
  | next :: rest =>
    match composition? letter next with
    | some composed => composeFrom composed rest
    | none => letter :: composeFrom next rest

/-- A text with its marks built in. -/
def compose : List Char → List Char
  | [] => []
  | letter :: rest => composeFrom letter rest

/-- Code points of marks that belong to the character before them. -/
def markRanges : List (Nat × Nat) :=
  [(0x300, 0x36F), (0x483, 0x489), (0x591, 0x5BD), (0x610, 0x61A), (0x64B, 0x65F), (0x900, 0x903),
   (0x93A, 0x93C), (0x93E, 0x94F), (0x1AB0, 0x1AFF), (0x1DC0, 0x1DFF), (0x20D0, 0x20F0),
   (0x3099, 0x309A), (0xFE20, 0xFE2F)]

/-- Code points of the marks that take the vowel from a letter; a joiner may follow them. -/
def vowelKillers : List Nat :=
  [0x94D, 0x9CD, 0xA4D, 0xACD, 0xB4D, 0xBCD, 0xC4D, 0xCCD, 0xD4D, 0xDCA, 0xE3A, 0xF84, 0x1039,
   0x1714, 0x17D2, 0x1B44, 0xA8C4, 0xA953]

def isJoiner (c : Char) : Bool := c = '\u200c' || c = '\u200d'

/-- Every joiner stands behind a mark that takes a vowel. -/
def joinersStand : List Char → Bool
  | [] => true
  | [c] => !isJoiner c
  | c :: d :: rest =>
    !isJoiner c && if isJoiner d then vowelKillers.contains c.toNat && joinersStand rest
      else joinersStand (d :: rest)

/-- A label does not begin with a mark, and its joiners stand where they may. -/
def isWellFormed (label : List Char) : Bool :=
  !(label.head?.any (Text.inRanges markRanges)) && joinersStand label

/-! ### Labels -/

/-- A character that must not stand in a name in ASCII. -/
def isRefused (c : Char) : Bool :=
  c.toNat ≤ 0x20 || c.toNat = 0x7F || "#/:<>?@[\\]^|%".toList.contains c

/-- What stands in front of a label in Punycode. -/
def mark : List Char := ['x', 'n', '-', '-']

/-- A label in Punycode is the written form of a label that needs it. -/
def isCanonical (body : List Char) : Bool :=
  match Punycode.decode? body with
  | some label =>
    label.any (0x80 ≤ ·.toNat) && label.all (fun c => mapChar? c = some [c])
      && compose label == label && isWellFormed label && Punycode.encode label == body
  | none => false

/-- A mapped label in ASCII. -/
def asciiLabel? (label : List Char) : Option (List Char) :=
  if label.all (·.toNat < 0x80) then
    if mark.isPrefixOf label then
      if isCanonical (label.drop mark.length) then some label else none
    else some label
  else if isWellFormed label && !mark.isPrefixOf label then some (mark ++ Punycode.encode label)
  else none

/-- A domain name in ASCII, if it is one. -/
def toAscii? (name : List Char) : Option (List Char) := do
  let mapped ← name.mapM mapChar?
  let labels ← (Text.pieces '.' (compose mapped.flatten)).mapM asciiLabel?
  let joined := ['.'].intercalate labels
  if joined.any isRefused then none else some joined

end HostDashboard.Url.Domain
