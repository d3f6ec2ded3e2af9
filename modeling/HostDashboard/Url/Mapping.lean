/-
**Characters of domain names and what they are mapped to.**

Before a domain name is written in ASCII each of its characters is mapped: letters to small ones,
variant forms to plain ones, some to nothing; some must not stand in a name at all. The tables cover
the main alphabets with two cases, the letter-like and full-width forms and the general punctuation; a
character that no table lists stands for itself.

* `mappedLetters`, `mappedForms` and `mappedWideForms` list runs of code points that are mapped to one
  code point each, the targets keeping their distance;
* `mappedLists` lists the characters that become several.

What is left out, and so stands for itself: the alphabets with two cases beyond U+FFFF, and Cherokee; the
mathematical letters; squared and parenthesised forms, radicals and compatibility ideographs; ligatures of
Arabic letters other than lam with alef; and the letters of the Indic scripts, of Thai, Lao and Tibetan
that are written as two. Of the code points that are not assigned only those in `refusedRanges` are refused.
-/

import HostDashboard.Text.Pieces

namespace HostDashboard.Url.Domain

/-- First, last, step and first target of letters of the alphabets that are mapped to one other. -/
def mappedLetters : List (Nat × Nat × Nat × Nat) :=
  [(0xAA, 0xAA, 1, 0x61), (0xB2, 0xB3, 1, 0x32), (0xB5, 0xB5, 1, 0x3BC), (0xB9, 0xB9, 1, 0x31),
   (0xBA, 0xBA, 1, 0x6F), (0xC0, 0xD6, 1, 0xE0), (0xD8, 0xDE, 1, 0xF8), (0x100, 0x12E, 2, 0x101),
   (0x134, 0x136, 2, 0x135), (0x139, 0x13D, 2, 0x13A), (0x141, 0x147, 2, 0x142),
   (0x14A, 0x176, 2, 0x14B), (0x178, 0x178, 1, 0xFF), (0x179, 0x17D, 2, 0x17A),
   (0x17F, 0x17F, 1, 0x73), (0x181, 0x181, 1, 0x253), (0x182, 0x184, 2, 0x183),
   (0x186, 0x186, 1, 0x254), (0x187, 0x187, 1, 0x188), (0x189, 0x18A, 1, 0x256),
   (0x18B, 0x18B, 1, 0x18C), (0x18E, 0x18E, 1, 0x1DD), (0x18F, 0x18F, 1, 0x259),
   (0x190, 0x190, 1, 0x25B), (0x191, 0x191, 1, 0x192), (0x193, 0x193, 1, 0x260),
   (0x194, 0x194, 1, 0x263), (0x196, 0x196, 1, 0x269), (0x197, 0x197, 1, 0x268),
   (0x198, 0x198, 1, 0x199), (0x19C, 0x19C, 1, 0x26F), (0x19D, 0x19D, 1, 0x272),
   (0x19F, 0x19F, 1, 0x275), (0x1A0, 0x1A4, 2, 0x1A1), (0x1A6, 0x1A6, 1, 0x280),
   (0x1A7, 0x1A7, 1, 0x1A8), (0x1A9, 0x1A9, 1, 0x283), (0x1AC, 0x1AC, 1, 0x1AD),
   (0x1AE, 0x1AE, 1, 0x288), (0x1AF, 0x1AF, 1, 0x1B0), (0x1B1, 0x1B2, 1, 0x28A),
   (0x1B3, 0x1B5, 2, 0x1B4), (0x1B7, 0x1B7, 1, 0x292), (0x1B8, 0x1B8, 1, 0x1B9),
   (0x1BC, 0x1BC, 1, 0x1BD), (0x1CD, 0x1DB, 2, 0x1CE), (0x1DE, 0x1EE, 2, 0x1DF),
   (0x1F4, 0x1F4, 1, 0x1F5), (0x1F6, 0x1F6, 1, 0x195), (0x1F7, 0x1F7, 1, 0x1BF),
   (0x1F8, 0x21E, 2, 0x1F9), (0x220, 0x220, 1, 0x19E), (0x222, 0x232, 2, 0x223),
   (0x23A, 0x23A, 1, 0x2C65), (0x23B, 0x23B, 1, 0x23C), (0x23D, 0x23D, 1, 0x19A),
   (0x23E, 0x23E, 1, 0x2C66), (0x241, 0x241, 1, 0x242), (0x243, 0x243, 1, 0x180),
   (0x244, 0x244, 1, 0x289), (0x245, 0x245, 1, 0x28C), (0x246, 0x24E, 2, 0x247),
   (0x2B0, 0x2B0, 1, 0x68), (0x2B1, 0x2B1, 1, 0x266), (0x2B2, 0x2B2, 1, 0x6A),
   (0x2B3, 0x2B3, 1, 0x72), (0x2B4, 0x2B4, 1, 0x279), (0x2B5, 0x2B5, 1, 0x27B),
   (0x2B6, 0x2B6, 1, 0x281), (0x2B7, 0x2B7, 1, 0x77), (0x2B8, 0x2B8, 1, 0x79),
   (0x2E0, 0x2E0, 1, 0x263), (0x2E1, 0x2E1, 1, 0x6C), (0x2E2, 0x2E2, 1, 0x73),
   (0x2E3, 0x2E3, 1, 0x78), (0x2E4, 0x2E4, 1, 0x295), (0x340, 0x341, 1, 0x300),
   (0x343, 0x343, 1, 0x313), (0x345, 0x345, 1, 0x3B9), (0x370, 0x372, 2, 0x371),
   (0x374, 0x374, 1, 0x2B9), (0x376, 0x376, 1, 0x377), (0x37E, 0x37E, 1, 0x3B),
   (0x37F, 0x37F, 1, 0x3F3), (0x386, 0x386, 1, 0x3AC), (0x387, 0x387, 1, 0xB7),
   (0x388, 0x38A, 1, 0x3AD), (0x38C, 0x38C, 1, 0x3CC), (0x38E, 0x38F, 1, 0x3CD),
   (0x391, 0x3A1, 1, 0x3B1), (0x3A3, 0x3AB, 1, 0x3C3), (0x3CF, 0x3CF, 1, 0x3D7),
   (0x3D0, 0x3D0, 1, 0x3B2), (0x3D1, 0x3D1, 1, 0x3B8), (0x3D2, 0x3D2, 1, 0x3C5),
   (0x3D3, 0x3D3, 1, 0x3CD), (0x3D4, 0x3D4, 1, 0x3CB), (0x3D5, 0x3D5, 1, 0x3C6),
   (0x3D6, 0x3D6, 1, 0x3C0), (0x3D8, 0x3EE, 2, 0x3D9), (0x3F0, 0x3F0, 1, 0x3BA),
   (0x3F1, 0x3F1, 1, 0x3C1), (0x3F2, 0x3F2, 1, 0x3C3), (0x3F4, 0x3F4, 1, 0x3B8),
   (0x3F5, 0x3F5, 1, 0x3B5), (0x3F7, 0x3F7, 1, 0x3F8), (0x3F9, 0x3F9, 1, 0x3C3),
   (0x3FA, 0x3FA, 1, 0x3FB), (0x3FD, 0x3FF, 1, 0x37B), (0x400, 0x40F, 1, 0x450),
   (0x410, 0x42F, 1, 0x430), (0x460, 0x480, 2, 0x461), (0x48A, 0x4BE, 2, 0x48B),
   (0x4C1, 0x4CD, 2, 0x4C2), (0x4D0, 0x52E, 2, 0x4D1), (0x531, 0x556, 1, 0x561),
   (0x10C7, 0x10C7, 1, 0x2D27), (0x10CD, 0x10CD, 1, 0x2D2D), (0x10FC, 0x10FC, 1, 0x10DC),
   (0x1C80, 0x1C80, 1, 0x432), (0x1C81, 0x1C81, 1, 0x434), (0x1C82, 0x1C82, 1, 0x43E),
   (0x1C83, 0x1C84, 1, 0x441), (0x1C85, 0x1C85, 1, 0x442), (0x1C86, 0x1C86, 1, 0x44A),
   (0x1C87, 0x1C87, 1, 0x463), (0x1C88, 0x1C88, 1, 0xA64B), (0x1C90, 0x1CBA, 1, 0x10D0),
   (0x1CBD, 0x1CBF, 1, 0x10FD), (0x1D2C, 0x1D2C, 1, 0x61), (0x1D2D, 0x1D2D, 1, 0xE6),
   (0x1D2E, 0x1D30, 2, 0x62), (0x1D31, 0x1D31, 1, 0x65), (0x1D32, 0x1D32, 1, 0x1DD),
   (0x1D33, 0x1D3A, 1, 0x67), (0x1D3C, 0x1D3C, 1, 0x6F), (0x1D3D, 0x1D3D, 1, 0x223),
   (0x1D3E, 0x1D3E, 1, 0x70), (0x1D3F, 0x1D3F, 1, 0x72), (0x1D40, 0x1D41, 1, 0x74),
   (0x1D42, 0x1D42, 1, 0x77), (0x1D43, 0x1D43, 1, 0x61), (0x1D44, 0x1D45, 1, 0x250),
   (0x1D46, 0x1D46, 1, 0x1D02), (0x1D47, 0x1D47, 1, 0x62), (0x1D48, 0x1D49, 1, 0x64),
   (0x1D4A, 0x1D4A, 1, 0x259), (0x1D4B, 0x1D4C, 1, 0x25B), (0x1D4D, 0x1D4D, 1, 0x67),
   (0x1D4F, 0x1D4F, 1, 0x6B), (0x1D50, 0x1D50, 1, 0x6D), (0x1D51, 0x1D51, 1, 0x14B),
   (0x1D52, 0x1D52, 1, 0x6F), (0x1D53, 0x1D53, 1, 0x254), (0x1D54, 0x1D55, 1, 0x1D16),
   (0x1D56, 0x1D56, 1, 0x70), (0x1D57, 0x1D58, 1, 0x74), (0x1D59, 0x1D59, 1, 0x1D1D),
   (0x1D5A, 0x1D5A, 1, 0x26F), (0x1D5B, 0x1D5B, 1, 0x76), (0x1D5C, 0x1D5C, 1, 0x1D25),
   (0x1D5D, 0x1D5F, 1, 0x3B2), (0x1D60, 0x1D61, 1, 0x3C6), (0x1D62, 0x1D62, 1, 0x69),
   (0x1D63, 0x1D63, 1, 0x72), (0x1D64, 0x1D65, 1, 0x75), (0x1D66, 0x1D67, 1, 0x3B2),
   (0x1D68, 0x1D68, 1, 0x3C1), (0x1D69, 0x1D6A, 1, 0x3C6), (0x1D78, 0x1D78, 1, 0x43D),
   (0x1D9B, 0x1D9B, 1, 0x252), (0x1D9C, 0x1D9C, 1, 0x63), (0x1D9D, 0x1D9D, 1, 0x255),
   (0x1D9E, 0x1D9E, 1, 0xF0), (0x1D9F, 0x1D9F, 1, 0x25C), (0x1DA0, 0x1DA0, 1, 0x66),
   (0x1DA1, 0x1DA1, 1, 0x25F), (0x1DA2, 0x1DA2, 1, 0x261), (0x1DA3, 0x1DA3, 1, 0x265),
   (0x1DA4, 0x1DA6, 1, 0x268), (0x1DA7, 0x1DA7, 1, 0x1D7B), (0x1DA8, 0x1DA8, 1, 0x29D),
   (0x1DA9, 0x1DA9, 1, 0x26D), (0x1DAA, 0x1DAA, 1, 0x1D85), (0x1DAB, 0x1DAB, 1, 0x29F),
   (0x1DAC, 0x1DAC, 1, 0x271), (0x1DAD, 0x1DAD, 1, 0x270), (0x1DAE, 0x1DB1, 1, 0x272),
   (0x1DB2, 0x1DB2, 1, 0x278), (0x1DB3, 0x1DB4, 1, 0x282), (0x1DB5, 0x1DB5, 1, 0x1AB),
   (0x1DB6, 0x1DB7, 1, 0x289), (0x1DB8, 0x1DB8, 1, 0x1D1C), (0x1DB9, 0x1DBA, 1, 0x28B),
   (0x1DBB, 0x1DBB, 1, 0x7A), (0x1DBC, 0x1DBE, 1, 0x290), (0x1DBF, 0x1DBF, 1, 0x3B8)]

/-- First, last, step and first target of further letters and of letter-like forms. -/
def mappedForms : List (Nat × Nat × Nat × Nat) :=
  [(0x1E00, 0x1E94, 2, 0x1E01), (0x1E9B, 0x1E9B, 1, 0x1E61), (0x1EA0, 0x1EFE, 2, 0x1EA1),
   (0x1F08, 0x1F0F, 1, 0x1F00), (0x1F18, 0x1F1D, 1, 0x1F10), (0x1F28, 0x1F2F, 1, 0x1F20),
   (0x1F38, 0x1F3F, 1, 0x1F30), (0x1F48, 0x1F4D, 1, 0x1F40), (0x1F59, 0x1F5F, 2, 0x1F51),
   (0x1F68, 0x1F6F, 1, 0x1F60), (0x1F71, 0x1F71, 1, 0x3AC), (0x1F73, 0x1F73, 1, 0x3AD),
   (0x1F75, 0x1F75, 1, 0x3AE), (0x1F77, 0x1F77, 1, 0x3AF), (0x1F79, 0x1F79, 1, 0x3CC),
   (0x1F7B, 0x1F7B, 1, 0x3CD), (0x1F7D, 0x1F7D, 1, 0x3CE), (0x1FB8, 0x1FB9, 1, 0x1FB0),
   (0x1FBA, 0x1FBA, 1, 0x1F70), (0x1FBB, 0x1FBB, 1, 0x3AC), (0x1FBE, 0x1FBE, 1, 0x3B9),
   (0x1FC8, 0x1FC8, 1, 0x1F72), (0x1FC9, 0x1FC9, 1, 0x3AD), (0x1FCA, 0x1FCA, 1, 0x1F74),
   (0x1FCB, 0x1FCB, 1, 0x3AE), (0x1FD3, 0x1FD3, 1, 0x390), (0x1FD8, 0x1FD9, 1, 0x1FD0),
   (0x1FDA, 0x1FDA, 1, 0x1F76), (0x1FDB, 0x1FDB, 1, 0x3AF), (0x1FE3, 0x1FE3, 1, 0x3B0),
   (0x1FE8, 0x1FE9, 1, 0x1FE0), (0x1FEA, 0x1FEA, 1, 0x1F7A), (0x1FEB, 0x1FEB, 1, 0x3CD),
   (0x1FEC, 0x1FEC, 1, 0x1FE5), (0x1FEF, 0x1FEF, 1, 0x60), (0x1FF8, 0x1FF8, 1, 0x1F78),
   (0x1FF9, 0x1FF9, 1, 0x3CC), (0x1FFA, 0x1FFA, 1, 0x1F7C), (0x1FFB, 0x1FFB, 1, 0x3CE),
   (0x2011, 0x2011, 1, 0x2010), (0x2070, 0x2070, 1, 0x30), (0x2071, 0x2071, 1, 0x69),
   (0x2074, 0x2079, 1, 0x34), (0x207A, 0x207A, 1, 0x2B), (0x207B, 0x207B, 1, 0x2212),
   (0x207C, 0x207C, 1, 0x3D), (0x207D, 0x207E, 1, 0x28), (0x207F, 0x207F, 1, 0x6E),
   (0x2080, 0x2089, 1, 0x30), (0x208A, 0x208A, 1, 0x2B), (0x208B, 0x208B, 1, 0x2212),
   (0x208C, 0x208C, 1, 0x3D), (0x208D, 0x208E, 1, 0x28), (0x2090, 0x2090, 1, 0x61),
   (0x2091, 0x2091, 1, 0x65), (0x2092, 0x2092, 1, 0x6F), (0x2093, 0x2093, 1, 0x78),
   (0x2094, 0x2094, 1, 0x259), (0x2095, 0x2095, 1, 0x68), (0x2096, 0x2099, 1, 0x6B),
   (0x209A, 0x209A, 1, 0x70), (0x209B, 0x209C, 1, 0x73), (0x2102, 0x2102, 1, 0x63),
   (0x2107, 0x2107, 1, 0x25B), (0x210A, 0x210B, 1, 0x67), (0x210C, 0x210C, 1, 0x68),
   (0x210D, 0x210D, 1, 0x68), (0x210E, 0x210E, 1, 0x68), (0x210F, 0x210F, 1, 0x127),
   (0x2110, 0x2110, 1, 0x69), (0x2111, 0x2111, 1, 0x69), (0x2112, 0x2112, 1, 0x6C),
   (0x2113, 0x2115, 2, 0x6C), (0x2119, 0x211B, 1, 0x70), (0x211C, 0x211C, 1, 0x72),
   (0x211D, 0x211D, 1, 0x72), (0x2124, 0x2124, 1, 0x7A), (0x2126, 0x2126, 1, 0x3C9),
   (0x2128, 0x2128, 1, 0x7A), (0x212A, 0x212A, 1, 0x6B), (0x212B, 0x212B, 1, 0xE5),
   (0x212C, 0x212D, 1, 0x62), (0x212F, 0x212F, 1, 0x65), (0x2130, 0x2131, 1, 0x65),
   (0x2133, 0x2133, 1, 0x6D), (0x2134, 0x2134, 1, 0x6F), (0x2135, 0x2138, 1, 0x5D0),
   (0x2139, 0x2139, 1, 0x69), (0x213C, 0x213C, 1, 0x3C0), (0x213D, 0x213D, 1, 0x3B3),
   (0x213E, 0x213E, 1, 0x3B3), (0x213F, 0x213F, 1, 0x3C0), (0x2140, 0x2140, 1, 0x2211),
   (0x2145, 0x2145, 1, 0x64), (0x2146, 0x2147, 1, 0x64), (0x2148, 0x2149, 1, 0x69),
   (0x2160, 0x2160, 1, 0x69), (0x2164, 0x2164, 1, 0x76), (0x2169, 0x2169, 1, 0x78),
   (0x216C, 0x216C, 1, 0x6C), (0x216D, 0x216E, 1, 0x63), (0x216F, 0x216F, 1, 0x6D),
   (0x2170, 0x2170, 1, 0x69), (0x2174, 0x2174, 1, 0x76), (0x2179, 0x2179, 1, 0x78),
   (0x217C, 0x217C, 1, 0x6C), (0x217D, 0x217E, 1, 0x63), (0x217F, 0x217F, 1, 0x6D),
   (0x2460, 0x2468, 1, 0x31), (0x24B6, 0x24CF, 1, 0x61), (0x24D0, 0x24E9, 1, 0x61),
   (0x24EA, 0x24EA, 1, 0x30), (0x2C00, 0x2C2F, 1, 0x2C30), (0x2C60, 0x2C60, 1, 0x2C61),
   (0x2C62, 0x2C62, 1, 0x26B), (0x2C63, 0x2C63, 1, 0x1D7D), (0x2C64, 0x2C64, 1, 0x27D),
   (0x2C67, 0x2C6B, 2, 0x2C68), (0x2C6D, 0x2C6D, 1, 0x251), (0x2C6E, 0x2C6E, 1, 0x271),
   (0x2C6F, 0x2C6F, 1, 0x250), (0x2C70, 0x2C70, 1, 0x252), (0x2C72, 0x2C72, 1, 0x2C73),
   (0x2C75, 0x2C75, 1, 0x2C76), (0x2C7C, 0x2C7C, 1, 0x6A), (0x2C7D, 0x2C7D, 1, 0x76),
   (0x2C7E, 0x2C7F, 1, 0x23F), (0x2C80, 0x2CE2, 2, 0x2C81), (0x2CEB, 0x2CED, 2, 0x2CEC),
   (0x2CF2, 0x2CF2, 1, 0x2CF3), (0x2D6F, 0x2D6F, 1, 0x2D61)]

/-- First, last, step and first target of ideographic, compatible and full-width forms. -/
def mappedWideForms : List (Nat × Nat × Nat × Nat) :=
  [(0x3036, 0x3036, 1, 0x3012), (0x3038, 0x3038, 1, 0x5341), (0x3039, 0x303A, 1, 0x5344),
   (0x3131, 0x3132, 1, 0x1100), (0x3133, 0x3133, 1, 0x11AA), (0x3134, 0x3134, 1, 0x1102),
   (0x3135, 0x3136, 1, 0x11AC), (0x3137, 0x3139, 1, 0x1103), (0x313A, 0x313F, 1, 0x11B0),
   (0x3140, 0x3140, 1, 0x111A), (0x3141, 0x3143, 1, 0x1106), (0x3144, 0x3144, 1, 0x1121),
   (0x3145, 0x314E, 1, 0x1109), (0x314F, 0x3163, 1, 0x1161), (0x3165, 0x3166, 1, 0x1114),
   (0x3167, 0x3168, 1, 0x11C7), (0x3169, 0x3169, 1, 0x11CC), (0x316A, 0x316A, 1, 0x11CE),
   (0x316B, 0x316B, 1, 0x11D3), (0x316C, 0x316C, 1, 0x11D7), (0x316D, 0x316D, 1, 0x11D9),
   (0x316E, 0x316E, 1, 0x111C), (0x316F, 0x316F, 1, 0x11DD), (0x3170, 0x3170, 1, 0x11DF),
   (0x3171, 0x3172, 1, 0x111D), (0x3173, 0x3173, 1, 0x1120), (0x3174, 0x3175, 1, 0x1122),
   (0x3176, 0x3176, 1, 0x1127), (0x3177, 0x3177, 1, 0x1129), (0x3178, 0x317C, 1, 0x112B),
   (0x317D, 0x317D, 1, 0x1132), (0x317E, 0x317E, 1, 0x1136), (0x317F, 0x317F, 1, 0x1140),
   (0x3180, 0x3180, 1, 0x1147), (0x3181, 0x3181, 1, 0x114C), (0x3182, 0x3183, 1, 0x11F1),
   (0x3184, 0x3186, 1, 0x1157), (0x3187, 0x3188, 1, 0x1184), (0x3189, 0x3189, 1, 0x1188),
   (0x318A, 0x318B, 1, 0x1191), (0x318C, 0x318C, 1, 0x1194), (0x318D, 0x318D, 1, 0x119E),
   (0x318E, 0x318E, 1, 0x11A1), (0x3192, 0x3192, 1, 0x4E00), (0x3193, 0x3193, 1, 0x4E8C),
   (0x3194, 0x3194, 1, 0x4E09), (0x3195, 0x3195, 1, 0x56DB), (0x3196, 0x3196, 1, 0x4E0A),
   (0x3197, 0x3197, 1, 0x4E2D), (0x3198, 0x3198, 1, 0x4E0B), (0x3199, 0x3199, 1, 0x7532),
   (0x319A, 0x319A, 1, 0x4E59), (0x319B, 0x319B, 1, 0x4E19), (0x319C, 0x319C, 1, 0x4E01),
   (0x319D, 0x319D, 1, 0x5929), (0x319E, 0x319E, 1, 0x5730), (0x319F, 0x319F, 1, 0x4EBA),
   (0x3244, 0x3244, 1, 0x554F), (0x3245, 0x3245, 1, 0x5E7C), (0x3246, 0x3246, 1, 0x6587),
   (0x3247, 0x3247, 1, 0x7B8F), (0x3260, 0x3260, 1, 0x1100), (0x3261, 0x3262, 1, 0x1102),
   (0x3263, 0x3265, 1, 0x1105), (0x3266, 0x3266, 1, 0x1109), (0x3267, 0x3268, 1, 0x110B),
   (0x3269, 0x326D, 1, 0x110E), (0x326E, 0x326E, 1, 0xAC00), (0x326F, 0x326F, 1, 0xB098),
   (0x3270, 0x3270, 1, 0xB2E4), (0x3271, 0x3271, 1, 0xB77C), (0x3272, 0x3272, 1, 0xB9C8),
   (0x3273, 0x3273, 1, 0xBC14), (0x3274, 0x3274, 1, 0xC0AC), (0x3275, 0x3275, 1, 0xC544),
   (0x3276, 0x3276, 1, 0xC790), (0x3277, 0x3277, 1, 0xCC28), (0x3278, 0x3278, 1, 0xCE74),
   (0x3279, 0x3279, 1, 0xD0C0), (0x327A, 0x327A, 1, 0xD30C), (0x327B, 0x327B, 1, 0xD558),
   (0x327E, 0x327E, 1, 0xC6B0), (0x3280, 0x3280, 1, 0x4E00), (0x3281, 0x3281, 1, 0x4E8C),
   (0x3282, 0x3282, 1, 0x4E09), (0x3283, 0x3283, 1, 0x56DB), (0x3284, 0x3284, 1, 0x4E94),
   (0x3285, 0x3285, 1, 0x516D), (0x3286, 0x3286, 1, 0x4E03), (0x3287, 0x3287, 1, 0x516B),
   (0x3288, 0x3288, 1, 0x4E5D), (0x3289, 0x3289, 1, 0x5341), (0x328A, 0x328A, 1, 0x6708),
   (0x328B, 0x328B, 1, 0x706B), (0x328C, 0x328C, 1, 0x6C34), (0x328D, 0x328D, 1, 0x6728),
   (0x328E, 0x328E, 1, 0x91D1), (0x328F, 0x328F, 1, 0x571F), (0x3290, 0x3290, 1, 0x65E5),
   (0x3291, 0x3291, 1, 0x682A), (0x3292, 0x3292, 1, 0x6709), (0x3293, 0x3293, 1, 0x793E),
   (0x3294, 0x3294, 1, 0x540D), (0x3295, 0x3295, 1, 0x7279), (0x3296, 0x3296, 1, 0x8CA1),
   (0x3297, 0x3297, 1, 0x795D), (0x3298, 0x3298, 1, 0x52B4), (0x3299, 0x3299, 1, 0x79D8),
   (0x329A, 0x329A, 1, 0x7537), (0x329B, 0x329B, 1, 0x5973), (0x329C, 0x329C, 1, 0x9069),
   (0x329D, 0x329D, 1, 0x512A), (0x329E, 0x329E, 1, 0x5370), (0x329F, 0x329F, 1, 0x6CE8),
   (0x32A0, 0x32A0, 1, 0x9805), (0x32A1, 0x32A1, 1, 0x4F11), (0x32A2, 0x32A2, 1, 0x5199),
   (0x32A3, 0x32A3, 1, 0x6B63), (0x32A4, 0x32A4, 1, 0x4E0A), (0x32A5, 0x32A5, 1, 0x4E2D),
   (0x32A6, 0x32A6, 1, 0x4E0B), (0x32A7, 0x32A7, 1, 0x5DE6), (0x32A8, 0x32A8, 1, 0x53F3),
   (0x32A9, 0x32A9, 1, 0x533B), (0x32AA, 0x32AA, 1, 0x5B97), (0x32AB, 0x32AB, 1, 0x5B66),
   (0x32AC, 0x32AC, 1, 0x76E3), (0x32AD, 0x32AD, 1, 0x4F01), (0x32AE, 0x32AE, 1, 0x8CC7),
   (0x32AF, 0x32AF, 1, 0x5354), (0x32B0, 0x32B0, 1, 0x591C), (0x32D0, 0x32D0, 1, 0x30A2),
   (0x32D1, 0x32D1, 1, 0x30A4), (0x32D2, 0x32D2, 1, 0x30A6), (0x32D3, 0x32D3, 1, 0x30A8),
   (0x32D4, 0x32D5, 1, 0x30AA), (0x32D6, 0x32D6, 1, 0x30AD), (0x32D7, 0x32D7, 1, 0x30AF),
   (0x32D8, 0x32D8, 1, 0x30B1), (0x32D9, 0x32D9, 1, 0x30B3), (0x32DA, 0x32DA, 1, 0x30B5),
   (0x32DB, 0x32DB, 1, 0x30B7), (0x32DC, 0x32DC, 1, 0x30B9), (0x32DD, 0x32DD, 1, 0x30BB),
   (0x32DE, 0x32DE, 1, 0x30BD), (0x32DF, 0x32DF, 1, 0x30BF), (0x32E0, 0x32E0, 1, 0x30C1),
   (0x32E1, 0x32E1, 1, 0x30C4), (0x32E2, 0x32E2, 1, 0x30C6), (0x32E3, 0x32E3, 1, 0x30C8),
   (0x32E4, 0x32E9, 1, 0x30CA), (0x32EA, 0x32EA, 1, 0x30D2), (0x32EB, 0x32EB, 1, 0x30D5),
   (0x32EC, 0x32EC, 1, 0x30D8), (0x32ED, 0x32ED, 1, 0x30DB), (0x32EE, 0x32F2, 1, 0x30DE),
   (0x32F3, 0x32F3, 1, 0x30E4), (0x32F4, 0x32F4, 1, 0x30E6), (0x32F5, 0x32FA, 1, 0x30E8),
   (0x32FB, 0x32FE, 1, 0x30EF), (0xA640, 0xA66C, 2, 0xA641), (0xA680, 0xA69A, 2, 0xA681),
   (0xA69C, 0xA69C, 1, 0x44A), (0xA69D, 0xA69D, 1, 0x44C), (0xA722, 0xA72E, 2, 0xA723),
   (0xA732, 0xA76E, 2, 0xA733), (0xA770, 0xA770, 1, 0xA76F), (0xA779, 0xA77B, 2, 0xA77A),
   (0xA77D, 0xA77D, 1, 0x1D79), (0xA77E, 0xA786, 2, 0xA77F), (0xA78B, 0xA78B, 1, 0xA78C),
   (0xA78D, 0xA78D, 1, 0x265), (0xA790, 0xA792, 2, 0xA791), (0xA796, 0xA7A8, 2, 0xA797),
   (0xA7AA, 0xA7AA, 1, 0x266), (0xA7AB, 0xA7AB, 1, 0x25C), (0xA7AC, 0xA7AC, 1, 0x261),
   (0xA7AD, 0xA7AD, 1, 0x26C), (0xA7AE, 0xA7AE, 1, 0x26A), (0xA7B0, 0xA7B0, 1, 0x29E),
   (0xA7B1, 0xA7B1, 1, 0x287), (0xA7B2, 0xA7B2, 1, 0x29D), (0xA7B3, 0xA7B3, 1, 0xAB53),
   (0xA7B4, 0xA7C2, 2, 0xA7B5), (0xA7C4, 0xA7C4, 1, 0xA794), (0xA7C5, 0xA7C5, 1, 0x282),
   (0xA7C6, 0xA7C6, 1, 0x1D8E), (0xA7C7, 0xA7C9, 2, 0xA7C8), (0xA7D0, 0xA7D0, 1, 0xA7D1),
   (0xA7D6, 0xA7D8, 2, 0xA7D7), (0xA7F2, 0xA7F2, 1, 0x63), (0xA7F3, 0xA7F3, 1, 0x66),
   (0xA7F4, 0xA7F4, 1, 0x71), (0xA7F5, 0xA7F5, 1, 0xA7F6), (0xA7F8, 0xA7F8, 1, 0x127),
   (0xA7F9, 0xA7F9, 1, 0x153), (0xFB20, 0xFB20, 1, 0x5E2), (0xFB21, 0xFB21, 1, 0x5D0),
   (0xFB22, 0xFB23, 1, 0x5D3), (0xFB24, 0xFB26, 1, 0x5DB), (0xFB27, 0xFB27, 1, 0x5E8),
   (0xFB28, 0xFB28, 1, 0x5EA), (0xFB29, 0xFB29, 1, 0x2B), (0xFB50, 0xFB50, 1, 0x671),
   (0xFB51, 0xFB51, 1, 0x671), (0xFB52, 0xFB52, 1, 0x67B), (0xFB53, 0xFB53, 1, 0x67B),
   (0xFB54, 0xFB54, 1, 0x67B), (0xFB55, 0xFB55, 1, 0x67B), (0xFB56, 0xFB56, 1, 0x67E),
   (0xFB57, 0xFB57, 1, 0x67E), (0xFB58, 0xFB58, 1, 0x67E), (0xFB59, 0xFB59, 1, 0x67E),
   (0xFB5A, 0xFB5A, 1, 0x680), (0xFB5B, 0xFB5B, 1, 0x680), (0xFB5C, 0xFB5C, 1, 0x680),
   (0xFB5D, 0xFB5D, 1, 0x680), (0xFB5E, 0xFB5E, 1, 0x67A), (0xFB5F, 0xFB5F, 1, 0x67A),
   (0xFB60, 0xFB60, 1, 0x67A), (0xFB61, 0xFB61, 1, 0x67A), (0xFB62, 0xFB62, 1, 0x67F),
   (0xFB63, 0xFB63, 1, 0x67F), (0xFB64, 0xFB64, 1, 0x67F), (0xFB65, 0xFB65, 1, 0x67F),
   (0xFB66, 0xFB66, 1, 0x679), (0xFB67, 0xFB67, 1, 0x679), (0xFB68, 0xFB68, 1, 0x679),
   (0xFB69, 0xFB69, 1, 0x679), (0xFB6A, 0xFB6A, 1, 0x6A4), (0xFB6B, 0xFB6B, 1, 0x6A4),
   (0xFB6C, 0xFB6C, 1, 0x6A4), (0xFB6D, 0xFB6D, 1, 0x6A4), (0xFB6E, 0xFB6E, 1, 0x6A6),
   (0xFB6F, 0xFB6F, 1, 0x6A6), (0xFB70, 0xFB70, 1, 0x6A6), (0xFB71, 0xFB71, 1, 0x6A6),
   (0xFB72, 0xFB72, 1, 0x684), (0xFB73, 0xFB73, 1, 0x684), (0xFB74, 0xFB74, 1, 0x684),
   (0xFB75, 0xFB75, 1, 0x684), (0xFB76, 0xFB76, 1, 0x683), (0xFB77, 0xFB77, 1, 0x683),
   (0xFB78, 0xFB78, 1, 0x683), (0xFB79, 0xFB79, 1, 0x683), (0xFB7A, 0xFB7A, 1, 0x686),
   (0xFB7B, 0xFB7B, 1, 0x686), (0xFB7C, 0xFB7C, 1, 0x686), (0xFB7D, 0xFB7E, 1, 0x686),
   (0xFB7F, 0xFB7F, 1, 0x687), (0xFB80, 0xFB80, 1, 0x687), (0xFB81, 0xFB81, 1, 0x687),
   (0xFB82, 0xFB82, 1, 0x68D), (0xFB83, 0xFB83, 1, 0x68D), (0xFB84, 0xFB84, 1, 0x68C),
   (0xFB85, 0xFB85, 1, 0x68C), (0xFB86, 0xFB86, 1, 0x68E), (0xFB87, 0xFB87, 1, 0x68E),
   (0xFB88, 0xFB88, 1, 0x688), (0xFB89, 0xFB89, 1, 0x688), (0xFB8A, 0xFB8A, 1, 0x698),
   (0xFB8B, 0xFB8B, 1, 0x698), (0xFB8C, 0xFB8C, 1, 0x691), (0xFB8D, 0xFB8D, 1, 0x691),
   (0xFB8E, 0xFB8E, 1, 0x6A9), (0xFB8F, 0xFB8F, 1, 0x6A9), (0xFB90, 0xFB90, 1, 0x6A9),
   (0xFB91, 0xFB91, 1, 0x6A9), (0xFB92, 0xFB92, 1, 0x6AF), (0xFB93, 0xFB93, 1, 0x6AF),
   (0xFB94, 0xFB94, 1, 0x6AF), (0xFB95, 0xFB95, 1, 0x6AF), (0xFB96, 0xFB96, 1, 0x6B3),
   (0xFB97, 0xFB97, 1, 0x6B3), (0xFB98, 0xFB98, 1, 0x6B3), (0xFB99, 0xFB99, 1, 0x6B3),
   (0xFB9A, 0xFB9A, 1, 0x6B1), (0xFB9B, 0xFB9B, 1, 0x6B1), (0xFB9C, 0xFB9C, 1, 0x6B1),
   (0xFB9D, 0xFB9D, 1, 0x6B1), (0xFB9E, 0xFB9E, 1, 0x6BA), (0xFB9F, 0xFBA0, 1, 0x6BA),
   (0xFBA1, 0xFBA1, 1, 0x6BB), (0xFBA2, 0xFBA2, 1, 0x6BB), (0xFBA3, 0xFBA3, 1, 0x6BB),
   (0xFBA4, 0xFBA4, 1, 0x6C0), (0xFBA5, 0xFBA6, 1, 0x6C0), (0xFBA7, 0xFBA7, 1, 0x6C1),
   (0xFBA8, 0xFBA8, 1, 0x6C1), (0xFBA9, 0xFBA9, 1, 0x6C1), (0xFBAA, 0xFBAA, 1, 0x6BE),
   (0xFBAB, 0xFBAB, 1, 0x6BE), (0xFBAC, 0xFBAC, 1, 0x6BE), (0xFBAD, 0xFBAD, 1, 0x6BE),
   (0xFBAE, 0xFBAE, 1, 0x6D2), (0xFBAF, 0xFBB0, 1, 0x6D2), (0xFBB1, 0xFBB1, 1, 0x6D3),
   (0xFBD3, 0xFBD3, 1, 0x6AD), (0xFBD4, 0xFBD4, 1, 0x6AD), (0xFBD5, 0xFBD5, 1, 0x6AD),
   (0xFBD6, 0xFBD6, 1, 0x6AD), (0xFBD7, 0xFBD7, 1, 0x6C7), (0xFBD8, 0xFBD8, 1, 0x6C7),
   (0xFBD9, 0xFBD9, 1, 0x6C6), (0xFBDA, 0xFBDA, 1, 0x6C6), (0xFBDB, 0xFBDB, 1, 0x6C8),
   (0xFBDC, 0xFBDC, 1, 0x6C8), (0xFBDE, 0xFBDE, 1, 0x6CB), (0xFBDF, 0xFBDF, 1, 0x6CB),
   (0xFBE0, 0xFBE0, 1, 0x6C5), (0xFBE1, 0xFBE1, 1, 0x6C5), (0xFBE2, 0xFBE2, 1, 0x6C9),
   (0xFBE3, 0xFBE3, 1, 0x6C9), (0xFBE4, 0xFBE4, 1, 0x6D0), (0xFBE5, 0xFBE5, 1, 0x6D0),
   (0xFBE6, 0xFBE6, 1, 0x6D0), (0xFBE7, 0xFBE7, 1, 0x6D0), (0xFBE8, 0xFBE8, 1, 0x649),
   (0xFBE9, 0xFBE9, 1, 0x649), (0xFBFC, 0xFBFC, 1, 0x6CC), (0xFBFD, 0xFBFD, 1, 0x6CC),
   (0xFBFE, 0xFBFE, 1, 0x6CC), (0xFBFF, 0xFBFF, 1, 0x6CC), (0xFE10, 0xFE10, 1, 0x2C),
   (0xFE11, 0xFE11, 1, 0x3001), (0xFE14, 0xFE14, 1, 0x3B), (0xFE15, 0xFE15, 1, 0x21),
   (0xFE17, 0xFE18, 1, 0x3016), (0xFE31, 0xFE31, 1, 0x2014), (0xFE32, 0xFE32, 1, 0x2013),
   (0xFE33, 0xFE33, 1, 0x5F), (0xFE34, 0xFE34, 1, 0x5F), (0xFE35, 0xFE36, 1, 0x28),
   (0xFE37, 0xFE37, 1, 0x7B), (0xFE38, 0xFE38, 1, 0x7D), (0xFE39, 0xFE3A, 1, 0x3014),
   (0xFE3B, 0xFE3C, 1, 0x3010), (0xFE3D, 0xFE3E, 1, 0x300A), (0xFE3F, 0xFE40, 1, 0x3008),
   (0xFE41, 0xFE44, 1, 0x300C), (0xFE4D, 0xFE4D, 1, 0x5F), (0xFE4E, 0xFE4E, 1, 0x5F),
   (0xFE4F, 0xFE4F, 1, 0x5F), (0xFE50, 0xFE50, 1, 0x2C), (0xFE51, 0xFE51, 1, 0x3001),
   (0xFE54, 0xFE54, 1, 0x3B), (0xFE57, 0xFE57, 1, 0x21), (0xFE58, 0xFE58, 1, 0x2014),
   (0xFE59, 0xFE5A, 1, 0x28), (0xFE5B, 0xFE5B, 1, 0x7B), (0xFE5C, 0xFE5C, 1, 0x7D),
   (0xFE5D, 0xFE5E, 1, 0x3014), (0xFE60, 0xFE60, 1, 0x26), (0xFE61, 0xFE62, 1, 0x2A),
   (0xFE63, 0xFE63, 1, 0x2D), (0xFE66, 0xFE66, 1, 0x3D), (0xFE69, 0xFE69, 1, 0x24),
   (0xFE80, 0xFE81, 1, 0x621), (0xFE82, 0xFE83, 1, 0x622), (0xFE84, 0xFE85, 1, 0x623),
   (0xFE86, 0xFE87, 1, 0x624), (0xFE88, 0xFE89, 1, 0x625), (0xFE8A, 0xFE8A, 1, 0x626),
   (0xFE8B, 0xFE8B, 1, 0x626), (0xFE8C, 0xFE8D, 1, 0x626), (0xFE8E, 0xFE8F, 1, 0x627),
   (0xFE90, 0xFE90, 1, 0x628), (0xFE91, 0xFE91, 1, 0x628), (0xFE92, 0xFE93, 1, 0x628),
   (0xFE94, 0xFE95, 1, 0x629), (0xFE96, 0xFE96, 1, 0x62A), (0xFE97, 0xFE97, 1, 0x62A),
   (0xFE98, 0xFE99, 1, 0x62A), (0xFE9A, 0xFE9A, 1, 0x62B), (0xFE9B, 0xFE9B, 1, 0x62B),
   (0xFE9C, 0xFE9D, 1, 0x62B), (0xFE9E, 0xFE9E, 1, 0x62C), (0xFE9F, 0xFE9F, 1, 0x62C),
   (0xFEA0, 0xFEA1, 1, 0x62C), (0xFEA2, 0xFEA2, 1, 0x62D), (0xFEA3, 0xFEA3, 1, 0x62D),
   (0xFEA4, 0xFEA5, 1, 0x62D), (0xFEA6, 0xFEA6, 1, 0x62E), (0xFEA7, 0xFEA7, 1, 0x62E),
   (0xFEA8, 0xFEA9, 1, 0x62E), (0xFEAA, 0xFEAB, 1, 0x62F), (0xFEAC, 0xFEAD, 1, 0x630),
   (0xFEAE, 0xFEAF, 1, 0x631), (0xFEB0, 0xFEB1, 1, 0x632), (0xFEB2, 0xFEB2, 1, 0x633),
   (0xFEB3, 0xFEB3, 1, 0x633), (0xFEB4, 0xFEB5, 1, 0x633), (0xFEB6, 0xFEB6, 1, 0x634),
   (0xFEB7, 0xFEB7, 1, 0x634), (0xFEB8, 0xFEB9, 1, 0x634), (0xFEBA, 0xFEBA, 1, 0x635),
   (0xFEBB, 0xFEBB, 1, 0x635), (0xFEBC, 0xFEBD, 1, 0x635), (0xFEBE, 0xFEBE, 1, 0x636),
   (0xFEBF, 0xFEBF, 1, 0x636), (0xFEC0, 0xFEC1, 1, 0x636), (0xFEC2, 0xFEC2, 1, 0x637),
   (0xFEC3, 0xFEC3, 1, 0x637), (0xFEC4, 0xFEC5, 1, 0x637), (0xFEC6, 0xFEC6, 1, 0x638),
   (0xFEC7, 0xFEC7, 1, 0x638), (0xFEC8, 0xFEC9, 1, 0x638), (0xFECA, 0xFECA, 1, 0x639),
   (0xFECB, 0xFECB, 1, 0x639), (0xFECC, 0xFECD, 1, 0x639), (0xFECE, 0xFECE, 1, 0x63A),
   (0xFECF, 0xFECF, 1, 0x63A), (0xFED0, 0xFED0, 1, 0x63A), (0xFED1, 0xFED1, 1, 0x641),
   (0xFED2, 0xFED2, 1, 0x641), (0xFED3, 0xFED3, 1, 0x641), (0xFED4, 0xFED5, 1, 0x641),
   (0xFED6, 0xFED6, 1, 0x642), (0xFED7, 0xFED7, 1, 0x642), (0xFED8, 0xFED9, 1, 0x642),
   (0xFEDA, 0xFEDA, 1, 0x643), (0xFEDB, 0xFEDB, 1, 0x643), (0xFEDC, 0xFEDD, 1, 0x643),
   (0xFEDE, 0xFEDE, 1, 0x644), (0xFEDF, 0xFEDF, 1, 0x644), (0xFEE0, 0xFEE1, 1, 0x644),
   (0xFEE2, 0xFEE2, 1, 0x645), (0xFEE3, 0xFEE3, 1, 0x645), (0xFEE4, 0xFEE5, 1, 0x645),
   (0xFEE6, 0xFEE6, 1, 0x646), (0xFEE7, 0xFEE7, 1, 0x646), (0xFEE8, 0xFEE9, 1, 0x646),
   (0xFEEA, 0xFEEA, 1, 0x647), (0xFEEB, 0xFEEB, 1, 0x647), (0xFEEC, 0xFEED, 1, 0x647),
   (0xFEEE, 0xFEEF, 1, 0x648), (0xFEF0, 0xFEF1, 1, 0x649), (0xFEF2, 0xFEF2, 1, 0x64A),
   (0xFEF3, 0xFEF3, 1, 0x64A), (0xFEF4, 0xFEF4, 1, 0x64A), (0xFF01, 0xFF02, 1, 0x21),
   (0xFF04, 0xFF06, 2, 0x24), (0xFF07, 0xFF0D, 1, 0x27), (0xFF10, 0xFF19, 1, 0x30),
   (0xFF1B, 0xFF1D, 2, 0x3B), (0xFF21, 0xFF3A, 1, 0x61), (0xFF3F, 0xFF5B, 1, 0x5F),
   (0xFF5D, 0xFF5E, 1, 0x7D), (0xFF5F, 0xFF60, 1, 0x2985), (0xFF62, 0xFF63, 1, 0x300C),
   (0xFF64, 0xFF64, 1, 0x3001), (0xFF65, 0xFF65, 1, 0x30FB), (0xFF66, 0xFF66, 1, 0x30F2),
   (0xFF67, 0xFF67, 1, 0x30A1), (0xFF68, 0xFF68, 1, 0x30A3), (0xFF69, 0xFF69, 1, 0x30A5),
   (0xFF6A, 0xFF6A, 1, 0x30A7), (0xFF6B, 0xFF6B, 1, 0x30A9), (0xFF6C, 0xFF6C, 1, 0x30E3),
   (0xFF6D, 0xFF6D, 1, 0x30E5), (0xFF6E, 0xFF6E, 1, 0x30E7), (0xFF6F, 0xFF6F, 1, 0x30C3),
   (0xFF70, 0xFF70, 1, 0x30FC), (0xFF71, 0xFF71, 1, 0x30A2), (0xFF72, 0xFF72, 1, 0x30A4),
   (0xFF73, 0xFF73, 1, 0x30A6), (0xFF74, 0xFF74, 1, 0x30A8), (0xFF75, 0xFF76, 1, 0x30AA),
   (0xFF77, 0xFF77, 1, 0x30AD), (0xFF78, 0xFF78, 1, 0x30AF), (0xFF79, 0xFF79, 1, 0x30B1),
   (0xFF7A, 0xFF7A, 1, 0x30B3), (0xFF7B, 0xFF7B, 1, 0x30B5), (0xFF7C, 0xFF7C, 1, 0x30B7),
   (0xFF7D, 0xFF7D, 1, 0x30B9), (0xFF7E, 0xFF7E, 1, 0x30BB), (0xFF7F, 0xFF7F, 1, 0x30BD),
   (0xFF80, 0xFF80, 1, 0x30BF), (0xFF81, 0xFF81, 1, 0x30C1), (0xFF82, 0xFF82, 1, 0x30C4),
   (0xFF83, 0xFF83, 1, 0x30C6), (0xFF84, 0xFF84, 1, 0x30C8), (0xFF85, 0xFF8A, 1, 0x30CA),
   (0xFF8B, 0xFF8B, 1, 0x30D2), (0xFF8C, 0xFF8C, 1, 0x30D5), (0xFF8D, 0xFF8D, 1, 0x30D8),
   (0xFF8E, 0xFF8E, 1, 0x30DB), (0xFF8F, 0xFF93, 1, 0x30DE), (0xFF94, 0xFF94, 1, 0x30E4),
   (0xFF95, 0xFF95, 1, 0x30E6), (0xFF96, 0xFF9B, 1, 0x30E8), (0xFF9C, 0xFF9C, 1, 0x30EF),
   (0xFF9D, 0xFF9D, 1, 0x30F3), (0xFF9E, 0xFF9F, 1, 0x3099), (0xFFA1, 0xFFA2, 1, 0x1100),
   (0xFFA3, 0xFFA3, 1, 0x11AA), (0xFFA4, 0xFFA4, 1, 0x1102), (0xFFA5, 0xFFA6, 1, 0x11AC),
   (0xFFA7, 0xFFA9, 1, 0x1103), (0xFFAA, 0xFFAF, 1, 0x11B0), (0xFFB0, 0xFFB0, 1, 0x111A),
   (0xFFB1, 0xFFB3, 1, 0x1106), (0xFFB4, 0xFFB4, 1, 0x1121), (0xFFB5, 0xFFBE, 1, 0x1109),
   (0xFFC2, 0xFFC7, 1, 0x1161), (0xFFCA, 0xFFCF, 1, 0x1167), (0xFFD2, 0xFFD7, 1, 0x116D),
   (0xFFDA, 0xFFDC, 1, 0x1173), (0xFFE0, 0xFFE1, 1, 0xA2), (0xFFE2, 0xFFE2, 1, 0xAC),
   (0xFFE4, 0xFFE4, 1, 0xA6), (0xFFE5, 0xFFE5, 1, 0xA5), (0xFFE6, 0xFFE6, 1, 0x20A9),
   (0xFFE8, 0xFFE8, 1, 0x2502), (0xFFE9, 0xFFEC, 1, 0x2190), (0xFFED, 0xFFED, 1, 0x25A0),
   (0xFFEE, 0xFFEE, 1, 0x25CB)]

/-- Code points that are mapped to several others. -/
def mappedLists : List (Nat × List Nat) :=
  [(0xBC, [0x31, 0x2044, 0x34]), (0xBD, [0x31, 0x2044, 0x32]), (0xBE, [0x33, 0x2044, 0x34]),
   (0x130, [0x69, 0x307]), (0x132, [0x69, 0x6A]), (0x133, [0x69, 0x6A]), (0x13F, [0x6C, 0xB7]),
   (0x140, [0x6C, 0xB7]), (0x149, [0x2BC, 0x6E]), (0x1C4, [0x64, 0x17E]), (0x1C5, [0x64, 0x17E]),
   (0x1C6, [0x64, 0x17E]), (0x1C7, [0x6C, 0x6A]), (0x1C8, [0x6C, 0x6A]), (0x1C9, [0x6C, 0x6A]),
   (0x1CA, [0x6E, 0x6A]), (0x1CB, [0x6E, 0x6A]), (0x1CC, [0x6E, 0x6A]), (0x1F1, [0x64, 0x7A]),
   (0x1F2, [0x64, 0x7A]), (0x1F3, [0x64, 0x7A]), (0x344, [0x308, 0x301]), (0x587, [0x565, 0x582]),
   (0x1E9A, [0x61, 0x2BE]), (0x1E9E, [0x73, 0x73]), (0x1F80, [0x1F00, 0x3B9]),
   (0x1F81, [0x1F01, 0x3B9]), (0x1F82, [0x1F02, 0x3B9]), (0x1F83, [0x1F03, 0x3B9]),
   (0x1F84, [0x1F04, 0x3B9]), (0x1F85, [0x1F05, 0x3B9]), (0x1F86, [0x1F06, 0x3B9]),
   (0x1F87, [0x1F07, 0x3B9]), (0x1F88, [0x1F00, 0x3B9]), (0x1F89, [0x1F01, 0x3B9]),
   (0x1F8A, [0x1F02, 0x3B9]), (0x1F8B, [0x1F03, 0x3B9]), (0x1F8C, [0x1F04, 0x3B9]),
   (0x1F8D, [0x1F05, 0x3B9]), (0x1F8E, [0x1F06, 0x3B9]), (0x1F8F, [0x1F07, 0x3B9]),
   (0x1F90, [0x1F20, 0x3B9]), (0x1F91, [0x1F21, 0x3B9]), (0x1F92, [0x1F22, 0x3B9]),
   (0x1F93, [0x1F23, 0x3B9]), (0x1F94, [0x1F24, 0x3B9]), (0x1F95, [0x1F25, 0x3B9]),
   (0x1F96, [0x1F26, 0x3B9]), (0x1F97, [0x1F27, 0x3B9]), (0x1F98, [0x1F20, 0x3B9]),
   (0x1F99, [0x1F21, 0x3B9]), (0x1F9A, [0x1F22, 0x3B9]), (0x1F9B, [0x1F23, 0x3B9]),
   (0x1F9C, [0x1F24, 0x3B9]), (0x1F9D, [0x1F25, 0x3B9]), (0x1F9E, [0x1F26, 0x3B9]),
   (0x1F9F, [0x1F27, 0x3B9]), (0x1FA0, [0x1F60, 0x3B9]), (0x1FA1, [0x1F61, 0x3B9]),
   (0x1FA2, [0x1F62, 0x3B9]), (0x1FA3, [0x1F63, 0x3B9]), (0x1FA4, [0x1F64, 0x3B9]),
   (0x1FA5, [0x1F65, 0x3B9]), (0x1FA6, [0x1F66, 0x3B9]), (0x1FA7, [0x1F67, 0x3B9]),
   (0x1FA8, [0x1F60, 0x3B9]), (0x1FA9, [0x1F61, 0x3B9]), (0x1FAA, [0x1F62, 0x3B9]),
   (0x1FAB, [0x1F63, 0x3B9]), (0x1FAC, [0x1F64, 0x3B9]), (0x1FAD, [0x1F65, 0x3B9]),
   (0x1FAE, [0x1F66, 0x3B9]), (0x1FAF, [0x1F67, 0x3B9]), (0x1FB2, [0x1F70, 0x3B9]),
   (0x1FB3, [0x3B1, 0x3B9]), (0x1FB4, [0x3AC, 0x3B9]), (0x1FB7, [0x1FB6, 0x3B9]),
   (0x1FBC, [0x3B1, 0x3B9]), (0x1FC2, [0x1F74, 0x3B9]), (0x1FC3, [0x3B7, 0x3B9]),
   (0x1FC4, [0x3AE, 0x3B9]), (0x1FC7, [0x1FC6, 0x3B9]), (0x1FCC, [0x3B7, 0x3B9]),
   (0x1FF2, [0x1F7C, 0x3B9]), (0x1FF3, [0x3C9, 0x3B9]), (0x1FF4, [0x3CE, 0x3B9]),
   (0x1FF7, [0x1FF6, 0x3B9]), (0x1FFC, [0x3C9, 0x3B9]), (0x2033, [0x2032, 0x2032]),
   (0x2034, [0x2032, 0x2032, 0x2032]), (0x2036, [0x2035, 0x2035]),
   (0x2037, [0x2035, 0x2035, 0x2035]), (0x203C, [0x21, 0x21]),
   (0x2057, [0x2032, 0x2032, 0x2032, 0x2032]), (0x20A8, [0x72, 0x73]), (0x2103, [0xB0, 0x63]),
   (0x2109, [0xB0, 0x66]), (0x2116, [0x6E, 0x6F]), (0x2120, [0x73, 0x6D]),
   (0x2121, [0x74, 0x65, 0x6C]), (0x2122, [0x74, 0x6D]), (0x213B, [0x66, 0x61, 0x78]),
   (0x2150, [0x31, 0x2044, 0x37]), (0x2151, [0x31, 0x2044, 0x39]),
   (0x2152, [0x31, 0x2044, 0x31, 0x30]), (0x2153, [0x31, 0x2044, 0x33]),
   (0x2154, [0x32, 0x2044, 0x33]), (0x2155, [0x31, 0x2044, 0x35]), (0x2156, [0x32, 0x2044, 0x35]),
   (0x2157, [0x33, 0x2044, 0x35]), (0x2158, [0x34, 0x2044, 0x35]), (0x2159, [0x31, 0x2044, 0x36]),
   (0x215A, [0x35, 0x2044, 0x36]), (0x215B, [0x31, 0x2044, 0x38]), (0x215C, [0x33, 0x2044, 0x38]),
   (0x215D, [0x35, 0x2044, 0x38]), (0x215E, [0x37, 0x2044, 0x38]), (0x215F, [0x31, 0x2044]),
   (0x2161, [0x69, 0x69]), (0x2162, [0x69, 0x69, 0x69]), (0x2163, [0x69, 0x76]),
   (0x2165, [0x76, 0x69]), (0x2166, [0x76, 0x69, 0x69]), (0x2167, [0x76, 0x69, 0x69, 0x69]),
   (0x2168, [0x69, 0x78]), (0x216A, [0x78, 0x69]), (0x216B, [0x78, 0x69, 0x69]),
   (0x2171, [0x69, 0x69]), (0x2172, [0x69, 0x69, 0x69]), (0x2173, [0x69, 0x76]),
   (0x2175, [0x76, 0x69]), (0x2176, [0x76, 0x69, 0x69]), (0x2177, [0x76, 0x69, 0x69, 0x69]),
   (0x2178, [0x69, 0x78]), (0x217A, [0x78, 0x69]), (0x217B, [0x78, 0x69, 0x69]),
   (0x2189, [0x30, 0x2044, 0x33]), (0x2469, [0x31, 0x30]), (0x246A, [0x31, 0x31]),
   (0x246B, [0x31, 0x32]), (0x246C, [0x31, 0x33]), (0x246D, [0x31, 0x34]), (0x246E, [0x31, 0x35]),
   (0x246F, [0x31, 0x36]), (0x2470, [0x31, 0x37]), (0x2471, [0x31, 0x38]), (0x2472, [0x31, 0x39]),
   (0x2473, [0x32, 0x30]), (0x2474, [0x28, 0x31, 0x29]), (0x2475, [0x28, 0x32, 0x29]),
   (0x2476, [0x28, 0x33, 0x29]), (0x2477, [0x28, 0x34, 0x29]), (0x2478, [0x28, 0x35, 0x29]),
   (0x2479, [0x28, 0x36, 0x29]), (0x247A, [0x28, 0x37, 0x29]), (0x247B, [0x28, 0x38, 0x29]),
   (0x247C, [0x28, 0x39, 0x29]), (0x247D, [0x28, 0x31, 0x30, 0x29]),
   (0x247E, [0x28, 0x31, 0x31, 0x29]), (0x247F, [0x28, 0x31, 0x32, 0x29]),
   (0x2480, [0x28, 0x31, 0x33, 0x29]), (0x2481, [0x28, 0x31, 0x34, 0x29]),
   (0x2482, [0x28, 0x31, 0x35, 0x29]), (0x2483, [0x28, 0x31, 0x36, 0x29]),
   (0x2484, [0x28, 0x31, 0x37, 0x29]), (0x2485, [0x28, 0x31, 0x38, 0x29]),
   (0x2486, [0x28, 0x31, 0x39, 0x29]), (0x2487, [0x28, 0x32, 0x30, 0x29]),
   (0x249C, [0x28, 0x61, 0x29]), (0x249D, [0x28, 0x62, 0x29]), (0x249E, [0x28, 0x63, 0x29]),
   (0x249F, [0x28, 0x64, 0x29]), (0x24A0, [0x28, 0x65, 0x29]), (0x24A1, [0x28, 0x66, 0x29]),
   (0x24A2, [0x28, 0x67, 0x29]), (0x24A3, [0x28, 0x68, 0x29]), (0x24A4, [0x28, 0x69, 0x29]),
   (0x24A5, [0x28, 0x6A, 0x29]), (0x24A6, [0x28, 0x6B, 0x29]), (0x24A7, [0x28, 0x6C, 0x29]),
   (0x24A8, [0x28, 0x6D, 0x29]), (0x24A9, [0x28, 0x6E, 0x29]), (0x24AA, [0x28, 0x6F, 0x29]),
   (0x24AB, [0x28, 0x70, 0x29]), (0x24AC, [0x28, 0x71, 0x29]), (0x24AD, [0x28, 0x72, 0x29]),
   (0x24AE, [0x28, 0x73, 0x29]), (0x24AF, [0x28, 0x74, 0x29]), (0x24B0, [0x28, 0x75, 0x29]),
   (0x24B1, [0x28, 0x76, 0x29]), (0x24B2, [0x28, 0x77, 0x29]), (0x24B3, [0x28, 0x78, 0x29]),
   (0x24B4, [0x28, 0x79, 0x29]), (0x24B5, [0x28, 0x7A, 0x29]),
   (0x3002, [0x2E]), (0x309F, [0x3088, 0x308A]),
   (0x30FF, [0x30B3, 0x30C8]), (0xFB00, [0x66, 0x66]), (0xFB01, [0x66, 0x69]),
   (0xFB02, [0x66, 0x6C]), (0xFB03, [0x66, 0x66, 0x69]), (0xFB04, [0x66, 0x66, 0x6C]),
   (0xFB05, [0x73, 0x74]), (0xFB06, [0x73, 0x74]), (0xFB13, [0x574, 0x576]),
   (0xFB14, [0x574, 0x565]), (0xFB15, [0x574, 0x56B]), (0xFB16, [0x57E, 0x576]),
   (0xFB17, [0x574, 0x56D]), (0xFB1D, [0x5D9, 0x5B4]), (0xFB1F, [0x5F2, 0x5B7]),
   (0xFB2A, [0x5E9, 0x5C1]), (0xFB2B, [0x5E9, 0x5C2]), (0xFB2C, [0x5E9, 0x5BC, 0x5C1]),
   (0xFB2D, [0x5E9, 0x5BC, 0x5C2]), (0xFB2E, [0x5D0, 0x5B7]), (0xFB2F, [0x5D0, 0x5B8]),
   (0xFB30, [0x5D0, 0x5BC]), (0xFB31, [0x5D1, 0x5BC]), (0xFB32, [0x5D2, 0x5BC]),
   (0xFB33, [0x5D3, 0x5BC]), (0xFB34, [0x5D4, 0x5BC]), (0xFB35, [0x5D5, 0x5BC]),
   (0xFB36, [0x5D6, 0x5BC]), (0xFB38, [0x5D8, 0x5BC]), (0xFB39, [0x5D9, 0x5BC]),
   (0xFB3A, [0x5DA, 0x5BC]), (0xFB3B, [0x5DB, 0x5BC]), (0xFB3C, [0x5DC, 0x5BC]),
   (0xFB3E, [0x5DE, 0x5BC]), (0xFB40, [0x5E0, 0x5BC]), (0xFB41, [0x5E1, 0x5BC]),
   (0xFB43, [0x5E3, 0x5BC]), (0xFB44, [0x5E4, 0x5BC]), (0xFB46, [0x5E6, 0x5BC]),
   (0xFB47, [0x5E7, 0x5BC]), (0xFB48, [0x5E8, 0x5BC]), (0xFB49, [0x5E9, 0x5BC]),
   (0xFB4A, [0x5EA, 0x5BC]), (0xFB4B, [0x5D5, 0x5B9]), (0xFB4C, [0x5D1, 0x5BF]),
   (0xFB4D, [0x5DB, 0x5BF]), (0xFB4E, [0x5E4, 0x5BF]), (0xFB4F, [0x5D0, 0x5DC]),
   (0xFE71, [0x640, 0x64B]), (0xFE77, [0x640, 0x64E]), (0xFE79, [0x640, 0x64F]),
   (0xFE7B, [0x640, 0x650]), (0xFE7D, [0x640, 0x651]), (0xFE7F, [0x640, 0x652]),
   (0xFEF5, [0x644, 0x622]), (0xFEF6, [0x644, 0x622]), (0xFEF7, [0x644, 0x623]),
   (0xFEF8, [0x644, 0x623]), (0xFEF9, [0x644, 0x625]), (0xFEFA, [0x644, 0x625]),
   (0xFEFB, [0x644, 0x627]), (0xFEFC, [0x644, 0x627]), (0xFF0E, [0x2E]),
   (0xFF61, [0x2E])]

/-- Code points that are mapped to nothing. -/
def ignoredRanges : List (Nat × Nat) :=
  [(0xAD, 0xAD), (0x34F, 0x34F), (0x180B, 0x180D), (0x180F, 0x180F), (0x200B, 0x200B),
   (0x2060, 0x2060), (0x2064, 0x2064), (0xFE00, 0xFE0F), (0xFEFF, 0xFEFF), (0x1BCA0, 0x1BCA3),
   (0xE0100, 0xE01EF)]

/-- Code points that must not stand in a name. -/
def refusedRanges : List (Nat × Nat) :=
  [(0x80, 0xA0), (0xA8, 0xA8), (0xAF, 0xAF), (0xB4, 0xB4), (0xB8, 0xB8), (0x2D8, 0x2DD),
   (0x378, 0x37A), (0x380, 0x385), (0x38B, 0x38B), (0x38D, 0x38D), (0x3A2, 0x3A2), (0x4C0, 0x4C0),
   (0x530, 0x530), (0x557, 0x558), (0x58B, 0x58C), (0x10A0, 0x10C6), (0x10C8, 0x10CC),
   (0x10CE, 0x10CF), (0x1C89, 0x1C8F), (0x1CBB, 0x1CBC), (0x1CC8, 0x1CCF), (0x1CFB, 0x1CFF),
   (0x1680, 0x1680), (0x1F16, 0x1F17), (0x1F1E, 0x1F1F), (0x1F46, 0x1F47), (0x1F4E, 0x1F4F),
   (0x1F58, 0x1F58), (0x1F5A, 0x1F5A), (0x1F5C, 0x1F5C), (0x1F5E, 0x1F5E), (0x1F7E, 0x1F7F),
   (0x1FB5, 0x1FB5), (0x1FBD, 0x1FBD), (0x1FBF, 0x1FC1), (0x1FC5, 0x1FC5), (0x1FCD, 0x1FCF),
   (0x1FD4, 0x1FD5), (0x1FDC, 0x1FDF), (0x1FED, 0x1FEE), (0x1FF0, 0x1FF1), (0x1FF5, 0x1FF5),
   (0x1FFD, 0x200A), (0x200E, 0x200F), (0x2017, 0x2017), (0x2024, 0x2026), (0x2028, 0x202F),
   (0x203E, 0x203E), (0x2047, 0x2049), (0x205F, 0x205F), (0x2061, 0x2063), (0x2065, 0x206F),
   (0x2072, 0x2073), (0x208F, 0x208F), (0x209D, 0x209F), (0x20C1, 0x20CF), (0x20F1, 0x2101),
   (0x2105, 0x2106), (0x2132, 0x2132), (0x2183, 0x2183), (0x218C, 0x218F), (0x2488, 0x249B),
   (0x2CF4, 0x2CF8), (0x2D26, 0x2D26), (0x2D28, 0x2D2C), (0x2D2E, 0x2D2F), (0x2D68, 0x2D6E),
   (0x2D71, 0x2D7E), (0x2D97, 0x2D9F), (0x2DA7, 0x2DA7), (0x2DAF, 0x2DAF), (0x2DB7, 0x2DB7),
   (0x2DBF, 0x2DBF), (0x2DC7, 0x2DC7), (0x2DCF, 0x2DCF), (0x2DD7, 0x2DD7), (0x2DDF, 0x2DDF),
   (0x3000, 0x3000), (0x3040, 0x3040), (0x3097, 0x3098), (0x309B, 0x309C), (0x3100, 0x3104),
   (0x3130, 0x3130), (0x3164, 0x3164), (0x318F, 0x318F), (0x31E4, 0x31EF), (0x321F, 0x321F),
   (0x33C2, 0x33C2), (0x33C7, 0x33C7), (0x33D8, 0x33D8), (0xA6F8, 0xA6FF), (0xA7CB, 0xA7CF),
   (0xA7D2, 0xA7D2), (0xA7D4, 0xA7D4), (0xA7DA, 0xA7F1), (0xE000, 0xF8FF), (0xFB07, 0xFB12),
   (0xFB18, 0xFB1C), (0xFB37, 0xFB37), (0xFB3D, 0xFB3D), (0xFB3F, 0xFB3F), (0xFB42, 0xFB42),
   (0xFB45, 0xFB45), (0xFBC3, 0xFBD2), (0xFC5E, 0xFC63), (0xFD90, 0xFD91), (0xFDC8, 0xFDCE),
   (0xFDD0, 0xFDEF), (0xFDFA, 0xFDFB), (0xFE12, 0xFE13), (0xFE16, 0xFE16), (0xFE19, 0xFE1F),
   (0xFE30, 0xFE30), (0xFE47, 0xFE4C), (0xFE52, 0xFE53), (0xFE55, 0xFE56), (0xFE5F, 0xFE5F),
   (0xFE64, 0xFE65), (0xFE67, 0xFE68), (0xFE6A, 0xFE70), (0xFE72, 0xFE72), (0xFE74, 0xFE76),
   (0xFE78, 0xFE78), (0xFE7A, 0xFE7A), (0xFE7C, 0xFE7C), (0xFE7E, 0xFE7E), (0xFEFD, 0xFEFE),
   (0xFF00, 0xFF00), (0xFF03, 0xFF03), (0xFF05, 0xFF05), (0xFF0F, 0xFF0F), (0xFF1A, 0xFF1A),
   (0xFF1C, 0xFF1C), (0xFF1E, 0xFF20), (0xFF3B, 0xFF3E), (0xFF5C, 0xFF5C), (0xFFA0, 0xFFA0),
   (0xFFBF, 0xFFC1), (0xFFC8, 0xFFC9), (0xFFD0, 0xFFD1), (0xFFD8, 0xFFD9), (0xFFDD, 0xFFDF),
   (0xFFE3, 0xFFE3), (0xFFE7, 0xFFE7), (0xFFEF, 0xFFFF), (0x12544, 0x12F8F), (0x13456, 0x143FF),
   (0x14647, 0x167FF), (0x18D09, 0x1AFEF), (0x1B2FC, 0x1BBFF), (0x1BCA4, 0x1CEFF),
   (0x1DAB0, 0x1DEFF), (0x1FBFA, 0x1FFFF), (0x2EBE1, 0x2F7FF), (0x2FA1E, 0x2FFFF),
   (0x323B0, 0xE00FF), (0xE01F0, 0x10FFFF)]

/-- The code point that one of some runs maps a code point to. -/
def runTarget? (runs : List (Nat × Nat × Nat × Nat)) (code : Nat) : Option Nat :=
  (runs.find? fun (first, last, step, _) =>
    first ≤ code && code ≤ last && (code - first) % step == 0).map fun (first, _, _, target) =>
      target + (code - first)

/-- The code point that a code point is mapped to, if it is mapped to one. -/
def target? (code : Nat) : Option Nat :=
  runTarget? mappedLetters code <|> runTarget? mappedForms code <|> runTarget? mappedWideForms code

/-- What a character is mapped to, unless it must not stand in a name. -/
def mapChar? (c : Char) : Option (List Char) :=
  if c.toNat < 0x80 then some [c.toLower]
  else if Text.inRanges ignoredRanges c then some []
  else match mappedLists.lookup c.toNat with
    | some codes => some (codes.map Char.ofNat)
    | none =>
      match target? c.toNat with
      | some code => some [Char.ofNat code]
      | none => if Text.inRanges refusedRanges c then none else some [c]

end HostDashboard.Url.Domain
