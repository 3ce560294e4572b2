import HttpGateway.Text.CaseRun
import HttpGateway.Text.Range

/-!
# What characters stand for in host names

Host names are compared without regard to case, width and presentation: a capital letter stands
for the small one, a ligature for its letters, a circled digit for the digit, an ideographic full
stop for a dot. `mapChar` gives the text that a character stands for; some characters stand for
nothing. Characters that map one by one at a fixed distance are listed as runs, the others in
charts with the text for each.
-/

namespace HttpGateway.Url

/-- Characters that fall away in host names: marks of no width and selectors of variants. -/
def ignoredRanges : List (Nat × Nat) :=
  [(0xAD, 0xAD), (0x34F, 0x34F), (0x115F, 0x1160), (0x17B4, 0x17B5), (0x180B, 0x180F),
    (0x200B, 0x200B), (0x2060, 0x2064), (0x206A, 0x206F), (0x3164, 0x3164), (0xFE00, 0xFE0F),
    (0xFEFF, 0xFEFF), (0xFFA0, 0xFFA0), (0x1BCA0, 0x1BCA3), (0x1D173, 0x1D17A), (0xE0100, 0xE01EF)]

/-- The runs of characters that stand for one character each, at a fixed distance. -/
def mappingRuns : List Text.CaseRun :=
  [⟨0xC0, 0xD6, 1, 0xE0⟩, ⟨0xD8, 0xDE, 1, 0xF8⟩, ⟨0x100, 0x12E, 2, 0x101⟩, ⟨0x139, 0x13D, 2, 0x13A⟩,
    ⟨0x141, 0x147, 2, 0x142⟩, ⟨0x14A, 0x176, 2, 0x14B⟩, ⟨0x179, 0x17D, 2, 0x17A⟩,
    ⟨0x1A0, 0x1A4, 2, 0x1A1⟩, ⟨0x1CD, 0x1DB, 2, 0x1CE⟩, ⟨0x1DE, 0x1EE, 2, 0x1DF⟩,
    ⟨0x1F8, 0x21E, 2, 0x1F9⟩, ⟨0x222, 0x232, 2, 0x223⟩, ⟨0x246, 0x24E, 2, 0x247⟩,
    ⟨0x388, 0x38A, 1, 0x3AD⟩, ⟨0x391, 0x3A1, 1, 0x3B1⟩, ⟨0x3A3, 0x3AB, 1, 0x3C3⟩,
    ⟨0x3D8, 0x3EE, 2, 0x3D9⟩, ⟨0x3FD, 0x3FF, 1, 0x37B⟩, ⟨0x400, 0x40F, 1, 0x450⟩,
    ⟨0x410, 0x42F, 1, 0x430⟩, ⟨0x460, 0x480, 2, 0x461⟩, ⟨0x48A, 0x4BE, 2, 0x48B⟩,
    ⟨0x4C1, 0x4CD, 2, 0x4C2⟩, ⟨0x4D0, 0x52E, 2, 0x4D1⟩, ⟨0x531, 0x556, 1, 0x561⟩,
    ⟨0x10A0, 0x10C5, 1, 0x2D00⟩, ⟨0x13F8, 0x13FD, 1, 0x13F0⟩, ⟨0x1C90, 0x1CBA, 1, 0x10D0⟩,
    ⟨0x1CBD, 0x1CBF, 1, 0x10FD⟩, ⟨0x1D31, 0x1D39, 2, 0x65⟩, ⟨0x1D34, 0x1D3A, 2, 0x68⟩,
    ⟨0x1D5D, 0x1D5F, 1, 0x3B2⟩, ⟨0x1DA4, 0x1DA6, 1, 0x268⟩, ⟨0x1DAE, 0x1DB1, 1, 0x272⟩,
    ⟨0x1DBC, 0x1DBE, 1, 0x290⟩, ⟨0x1E00, 0x1E94, 2, 0x1E01⟩, ⟨0x1EA0, 0x1EFE, 2, 0x1EA1⟩,
    ⟨0x1F08, 0x1F0F, 1, 0x1F00⟩, ⟨0x1F18, 0x1F1D, 1, 0x1F10⟩, ⟨0x1F28, 0x1F2F, 1, 0x1F20⟩,
    ⟨0x1F38, 0x1F3F, 1, 0x1F30⟩, ⟨0x1F48, 0x1F4D, 1, 0x1F40⟩, ⟨0x1F59, 0x1F5F, 2, 0x1F51⟩,
    ⟨0x1F68, 0x1F6F, 1, 0x1F60⟩, ⟨0x2074, 0x2079, 1, 0x34⟩, ⟨0x2080, 0x2089, 1, 0x30⟩,
    ⟨0x2096, 0x2099, 1, 0x6B⟩, ⟨0x2119, 0x211B, 1, 0x70⟩, ⟨0x2135, 0x2138, 1, 0x5D0⟩,
    ⟨0x2460, 0x2468, 1, 0x31⟩, ⟨0x24B6, 0x24CF, 1, 0x61⟩, ⟨0x24D0, 0x24E9, 1, 0x61⟩,
    ⟨0x2C00, 0x2C2F, 1, 0x2C30⟩, ⟨0x2C67, 0x2C6B, 2, 0x2C68⟩, ⟨0x2C80, 0x2CE2, 2, 0x2C81⟩,
    ⟨0x3137, 0x3139, 1, 0x1103⟩, ⟨0x313A, 0x313F, 1, 0x11B0⟩, ⟨0x3141, 0x3143, 1, 0x1106⟩,
    ⟨0x3145, 0x314E, 1, 0x1109⟩, ⟨0x314F, 0x3163, 1, 0x1161⟩, ⟨0x3178, 0x317C, 1, 0x112B⟩,
    ⟨0x3184, 0x3186, 1, 0x1157⟩, ⟨0x3263, 0x3265, 1, 0x1105⟩, ⟨0x3269, 0x326D, 1, 0x110E⟩,
    ⟨0x32E4, 0x32E9, 1, 0x30CA⟩, ⟨0x32EE, 0x32F2, 1, 0x30DE⟩, ⟨0x32F5, 0x32FA, 1, 0x30E8⟩,
    ⟨0x32FB, 0x32FE, 1, 0x30EF⟩, ⟨0xA640, 0xA66C, 2, 0xA641⟩, ⟨0xA680, 0xA69A, 2, 0xA681⟩,
    ⟨0xA722, 0xA72E, 2, 0xA723⟩, ⟨0xA732, 0xA76E, 2, 0xA733⟩, ⟨0xA77E, 0xA786, 2, 0xA77F⟩,
    ⟨0xA796, 0xA7A8, 2, 0xA797⟩, ⟨0xA7B4, 0xA7C2, 2, 0xA7B5⟩, ⟨0xA7CC, 0xA7DA, 2, 0xA7CD⟩,
    ⟨0xAB70, 0xABBF, 1, 0x13A0⟩, ⟨0xFB24, 0xFB26, 1, 0x5DB⟩, ⟨0xFE41, 0xFE44, 1, 0x300C⟩,
    ⟨0xFF01, 0xFF20, 1, 0x21⟩, ⟨0xFF21, 0xFF3A, 1, 0x61⟩, ⟨0xFF3B, 0xFF5E, 1, 0x5B⟩,
    ⟨0xFF85, 0xFF8A, 1, 0x30CA⟩, ⟨0xFF8F, 0xFF93, 1, 0x30DE⟩, ⟨0xFF96, 0xFF9B, 1, 0x30E8⟩,
    ⟨0xFFA7, 0xFFA9, 1, 0x1103⟩, ⟨0xFFAA, 0xFFAF, 1, 0x11B0⟩, ⟨0xFFB1, 0xFFB3, 1, 0x1106⟩,
    ⟨0xFFB5, 0xFFBE, 1, 0x1109⟩, ⟨0xFFC2, 0xFFC7, 1, 0x1161⟩, ⟨0xFFCA, 0xFFCF, 1, 0x1167⟩,
    ⟨0xFFD2, 0xFFD7, 1, 0x116D⟩, ⟨0xFFDA, 0xFFDC, 1, 0x1173⟩, ⟨0xFFE9, 0xFFEC, 1, 0x2190⟩,
    ⟨0x10400, 0x10427, 1, 0x10428⟩, ⟨0x104B0, 0x104D3, 1, 0x104D8⟩, ⟨0x10570, 0x10594, 2, 0x10597⟩,
    ⟨0x10571, 0x10579, 2, 0x10598⟩, ⟨0x1057D, 0x10589, 2, 0x105A4⟩, ⟨0x1058D, 0x10591, 2, 0x105B4⟩,
    ⟨0x107B6, 0x107B8, 1, 0x1C0⟩, ⟨0x10C80, 0x10CB2, 1, 0x10CC0⟩, ⟨0x10D50, 0x10D65, 1, 0x10D70⟩,
    ⟨0x118A0, 0x118BF, 1, 0x118C0⟩, ⟨0x16E40, 0x16E5F, 1, 0x16E60⟩, ⟨0x16EA0, 0x16EB8, 1, 0x16EBB⟩,
    ⟨0x1CCD6, 0x1CCEF, 1, 0x61⟩, ⟨0x1CCF0, 0x1CCF9, 1, 0x30⟩, ⟨0x1D400, 0x1D419, 1, 0x61⟩,
    ⟨0x1D41A, 0x1D433, 1, 0x61⟩, ⟨0x1D434, 0x1D44D, 1, 0x61⟩, ⟨0x1D44E, 0x1D466, 2, 0x61⟩,
    ⟨0x1D44F, 0x1D453, 2, 0x62⟩, ⟨0x1D457, 0x1D467, 2, 0x6A⟩, ⟨0x1D468, 0x1D481, 1, 0x61⟩,
    ⟨0x1D482, 0x1D49B, 1, 0x61⟩, ⟨0x1D4A9, 0x1D4AC, 1, 0x6E⟩, ⟨0x1D4AE, 0x1D4B5, 1, 0x73⟩,
    ⟨0x1D4B6, 0x1D4B9, 1, 0x61⟩, ⟨0x1D4BB, 0x1D4CF, 2, 0x66⟩, ⟨0x1D4BE, 0x1D4C2, 2, 0x69⟩,
    ⟨0x1D4C6, 0x1D4CE, 2, 0x71⟩, ⟨0x1D4D0, 0x1D4E9, 1, 0x61⟩, ⟨0x1D4EA, 0x1D503, 1, 0x61⟩,
    ⟨0x1D505, 0x1D509, 2, 0x62⟩, ⟨0x1D50D, 0x1D514, 1, 0x6A⟩, ⟨0x1D516, 0x1D51C, 1, 0x73⟩,
    ⟨0x1D51E, 0x1D537, 1, 0x61⟩, ⟨0x1D539, 0x1D53D, 2, 0x62⟩, ⟨0x1D53C, 0x1D546, 2, 0x65⟩,
    ⟨0x1D54A, 0x1D550, 1, 0x73⟩, ⟨0x1D552, 0x1D56B, 1, 0x61⟩, ⟨0x1D56C, 0x1D585, 1, 0x61⟩,
    ⟨0x1D586, 0x1D59F, 1, 0x61⟩, ⟨0x1D5A0, 0x1D5B9, 1, 0x61⟩, ⟨0x1D5BA, 0x1D5D3, 1, 0x61⟩,
    ⟨0x1D5D4, 0x1D5ED, 1, 0x61⟩, ⟨0x1D5EE, 0x1D607, 1, 0x61⟩, ⟨0x1D608, 0x1D621, 1, 0x61⟩,
    ⟨0x1D622, 0x1D63B, 1, 0x61⟩, ⟨0x1D63C, 0x1D655, 1, 0x61⟩, ⟨0x1D656, 0x1D66F, 1, 0x61⟩,
    ⟨0x1D670, 0x1D689, 1, 0x61⟩, ⟨0x1D68A, 0x1D6A3, 1, 0x61⟩, ⟨0x1D6A8, 0x1D6B8, 1, 0x3B1⟩,
    ⟨0x1D6BA, 0x1D6C0, 1, 0x3C3⟩, ⟨0x1D6C2, 0x1D6D2, 1, 0x3B1⟩, ⟨0x1D6D4, 0x1D6DA, 1, 0x3C3⟩,
    ⟨0x1D6E2, 0x1D6F2, 1, 0x3B1⟩, ⟨0x1D6F4, 0x1D6FA, 1, 0x3C3⟩, ⟨0x1D6FC, 0x1D70C, 1, 0x3B1⟩,
    ⟨0x1D70E, 0x1D714, 1, 0x3C3⟩, ⟨0x1D71C, 0x1D72C, 1, 0x3B1⟩, ⟨0x1D72E, 0x1D734, 1, 0x3C3⟩,
    ⟨0x1D736, 0x1D746, 1, 0x3B1⟩, ⟨0x1D748, 0x1D74E, 1, 0x3C3⟩, ⟨0x1D756, 0x1D766, 1, 0x3B1⟩,
    ⟨0x1D768, 0x1D76E, 1, 0x3C3⟩, ⟨0x1D770, 0x1D780, 1, 0x3B1⟩, ⟨0x1D782, 0x1D788, 1, 0x3C3⟩,
    ⟨0x1D790, 0x1D7A0, 1, 0x3B1⟩, ⟨0x1D7A2, 0x1D7A8, 1, 0x3C3⟩, ⟨0x1D7AA, 0x1D7BA, 1, 0x3B1⟩,
    ⟨0x1D7BC, 0x1D7C2, 1, 0x3C3⟩, ⟨0x1D7CE, 0x1D7D7, 1, 0x30⟩, ⟨0x1D7D8, 0x1D7E1, 1, 0x30⟩,
    ⟨0x1D7E2, 0x1D7EB, 1, 0x30⟩, ⟨0x1D7EC, 0x1D7F5, 1, 0x30⟩, ⟨0x1D7F6, 0x1D7FF, 1, 0x30⟩,
    ⟨0x1E030, 0x1E038, 1, 0x430⟩, ⟨0x1E039, 0x1E03B, 1, 0x43A⟩, ⟨0x1E03C, 0x1E046, 1, 0x43E⟩,
    ⟨0x1E051, 0x1E059, 1, 0x430⟩, ⟨0x1E05F, 0x1E064, 1, 0x443⟩, ⟨0x1E900, 0x1E921, 1, 0x1E922⟩,
    ⟨0x1EE0A, 0x1EE0D, 1, 0x643⟩, ⟨0x1EE2A, 0x1EE2D, 1, 0x643⟩, ⟨0x1EE8B, 0x1EE8D, 1, 0x644⟩,
    ⟨0x1EEAB, 0x1EEAD, 1, 0x644⟩, ⟨0x1F130, 0x1F149, 1, 0x61⟩, ⟨0x1FBF0, 0x1FBF9, 1, 0x30⟩]

/-- The texts that the code points from `first` to `last` stand for, with a space between them. -/
structure Chart where
  /-- The least code point of the chart. -/
  first : Nat
  /-- The greatest code point of the chart. -/
  last : Nat
  /-- The texts in order. -/
  texts : String

/-- The charts, in increasing order. -/
def charts : List Chart :=
  [⟨0xAA, 0xAA, "a"⟩, ⟨0xB2, 0xB3, "2 3"⟩, ⟨0xB5, 0xB5, "μ"⟩, ⟨0xB9, 0xBA, "1 o"⟩,
    ⟨0xBC, 0xBE, "1⁄4 1⁄2 3⁄4"⟩, ⟨0x130, 0x130, "i̇"⟩, ⟨0x132, 0x134, "ij ij ĵ"⟩,
    ⟨0x136, 0x136, "ķ"⟩, ⟨0x13F, 0x140, "l· l·"⟩, ⟨0x149, 0x149, "ʼn"⟩, ⟨0x178, 0x178, "ÿ"⟩,
    ⟨0x17F, 0x17F, "s"⟩, ⟨0x181, 0x182, "ɓ ƃ"⟩, ⟨0x184, 0x184, "ƅ"⟩, ⟨0x186, 0x187, "ɔ ƈ"⟩,
    ⟨0x189, 0x18B, "ɖ ɗ ƌ"⟩, ⟨0x18E, 0x191, "ǝ ə ɛ ƒ"⟩, ⟨0x193, 0x194, "ɠ ɣ"⟩,
    ⟨0x196, 0x198, "ɩ ɨ ƙ"⟩, ⟨0x19C, 0x19D, "ɯ ɲ"⟩, ⟨0x19F, 0x19F, "ɵ"⟩, ⟨0x1A6, 0x1A7, "ʀ ƨ"⟩,
    ⟨0x1A9, 0x1A9, "ʃ"⟩, ⟨0x1AC, 0x1AC, "ƭ"⟩, ⟨0x1AE, 0x1AF, "ʈ ư"⟩, ⟨0x1B1, 0x1B3, "ʊ ʋ ƴ"⟩,
    ⟨0x1B5, 0x1B5, "ƶ"⟩, ⟨0x1B7, 0x1B8, "ʒ ƹ"⟩, ⟨0x1BC, 0x1BC, "ƽ"⟩,
    ⟨0x1C4, 0x1CC, "dž dž dž lj lj lj nj nj nj"⟩, ⟨0x1F1, 0x1F4, "dz dz dz ǵ"⟩,
    ⟨0x1F6, 0x1F7, "ƕ ƿ"⟩, ⟨0x220, 0x220, "ƞ"⟩, ⟨0x23A, 0x23B, "ⱥ ȼ"⟩, ⟨0x23D, 0x23E, "ƚ ⱦ"⟩,
    ⟨0x241, 0x241, "ɂ"⟩, ⟨0x243, 0x245, "ƀ ʉ ʌ"⟩, ⟨0x2B0, 0x2B8, "h ɦ j r ɹ ɻ ʁ w y"⟩,
    ⟨0x2E0, 0x2E4, "ɣ l s x ʕ"⟩, ⟨0x340, 0x341, "̀ ́"⟩, ⟨0x343, 0x345, "̓ ̈́ ι"⟩,
    ⟨0x370, 0x370, "ͱ"⟩, ⟨0x372, 0x372, "ͳ"⟩, ⟨0x374, 0x374, "ʹ"⟩, ⟨0x376, 0x376, "ͷ"⟩,
    ⟨0x37E, 0x37F, "; ϳ"⟩, ⟨0x386, 0x387, "ά ·"⟩, ⟨0x38C, 0x38C, "ό"⟩, ⟨0x38E, 0x38F, "ύ ώ"⟩,
    ⟨0x3CF, 0x3D6, "ϗ β θ υ ύ ϋ φ π"⟩, ⟨0x3F0, 0x3F2, "κ ρ σ"⟩, ⟨0x3F4, 0x3F5, "θ ε"⟩,
    ⟨0x3F7, 0x3F7, "ϸ"⟩, ⟨0x3F9, 0x3FA, "σ ϻ"⟩, ⟨0x4C0, 0x4C0, "ӏ"⟩, ⟨0x587, 0x587, "եւ"⟩,
    ⟨0x675, 0x678, "اٴ وٴ ۇٴ يٴ"⟩, ⟨0x958, 0x95F, "क़ ख़ ग़ ज़ ड़ ढ़ फ़ य़"⟩,
    ⟨0x9DC, 0x9DD, "ড় ঢ়"⟩, ⟨0x9DF, 0x9DF, "য়"⟩, ⟨0xA33, 0xA33, "ਲ਼"⟩, ⟨0xA36, 0xA36, "ਸ਼"⟩,
    ⟨0xA59, 0xA5B, "ਖ਼ ਗ਼ ਜ਼"⟩, ⟨0xA5E, 0xA5E, "ਫ਼"⟩, ⟨0xB5C, 0xB5D, "ଡ଼ ଢ଼"⟩, ⟨0xE33, 0xE33, "ํา"⟩,
    ⟨0xEB3, 0xEB3, "ໍາ"⟩, ⟨0xEDC, 0xEDD, "ຫນ ຫມ"⟩, ⟨0xF0C, 0xF0C, "་"⟩, ⟨0xF43, 0xF43, "གྷ"⟩,
    ⟨0xF4D, 0xF4D, "ཌྷ"⟩, ⟨0xF52, 0xF52, "དྷ"⟩, ⟨0xF57, 0xF57, "བྷ"⟩, ⟨0xF5C, 0xF5C, "ཛྷ"⟩,
    ⟨0xF69, 0xF69, "ཀྵ"⟩, ⟨0xF73, 0xF73, "ཱི"⟩, ⟨0xF75, 0xF79, "ཱུ ྲྀ ྲཱྀ ླྀ ླཱྀ"⟩,
    ⟨0xF81, 0xF81, "ཱྀ"⟩, ⟨0xF93, 0xF93, "ྒྷ"⟩, ⟨0xF9D, 0xF9D, "ྜྷ"⟩, ⟨0xFA2, 0xFA2, "ྡྷ"⟩,
    ⟨0xFA7, 0xFA7, "ྦྷ"⟩, ⟨0xFAC, 0xFAC, "ྫྷ"⟩, ⟨0xFB9, 0xFB9, "ྐྵ"⟩, ⟨0x10C7, 0x10C7, "ⴧ"⟩,
    ⟨0x10CD, 0x10CD, "ⴭ"⟩, ⟨0x10FC, 0x10FC, "ნ"⟩, ⟨0x1C80, 0x1C89, "в д о с т т ъ ѣ ꙋ ᲊ"⟩,
    ⟨0x1D2C, 0x1D2E, "a æ b"⟩, ⟨0x1D30, 0x1D30, "d"⟩, ⟨0x1D32, 0x1D32, "ǝ"⟩,
    ⟨0x1D3C, 0x1D4D, "o ȣ p r t u w a ɐ ɑ ᴂ b d e ə ɛ ɜ g"⟩,
    ⟨0x1D4F, 0x1D5C, "k m ŋ o ɔ ᴖ ᴗ p t u ᴝ ɯ v ᴥ"⟩, ⟨0x1D60, 0x1D6A, "φ χ i r u v β γ ρ φ χ"⟩,
    ⟨0x1D78, 0x1D78, "н"⟩, ⟨0x1D9B, 0x1DA3, "ɒ c ɕ ð ɜ f ɟ ɡ ɥ"⟩, ⟨0x1DA7, 0x1DAD, "ᵻ ʝ ɭ ᶅ ʟ ɱ ɰ"⟩,
    ⟨0x1DB2, 0x1DBB, "ɸ ʂ ʃ ƫ ʉ ʊ ᴜ ʋ ʌ z"⟩, ⟨0x1DBF, 0x1DBF, "θ"⟩, ⟨0x1E9A, 0x1E9B, "aʾ ṡ"⟩,
    ⟨0x1E9E, 0x1E9E, "ß"⟩, ⟨0x1F71, 0x1F71, "ά"⟩, ⟨0x1F73, 0x1F73, "έ"⟩, ⟨0x1F75, 0x1F75, "ή"⟩,
    ⟨0x1F77, 0x1F77, "ί"⟩, ⟨0x1F79, 0x1F79, "ό"⟩, ⟨0x1F7B, 0x1F7B, "ύ"⟩, ⟨0x1F7D, 0x1F7D, "ώ"⟩,
    ⟨0x1F80, 0x1F96, "ἀι ἁι ἂι ἃι ἄι ἅι ἆι ἇι ἀι ἁι ἂι ἃι ἄι ἅι ἆι ἇι ἠι ἡι ἢι ἣι ἤι ἥι ἦι"⟩,
    ⟨0x1F97, 0x1FAD, "ἧι ἠι ἡι ἢι ἣι ἤι ἥι ἦι ἧι ὠι ὡι ὢι ὣι ὤι ὥι ὦι ὧι ὠι ὡι ὢι ὣι ὤι ὥι"⟩,
    ⟨0x1FAE, 0x1FAF, "ὦι ὧι"⟩, ⟨0x1FB2, 0x1FB4, "ὰι αι άι"⟩, ⟨0x1FB7, 0x1FBC, "ᾶι ᾰ ᾱ ὰ ά αι"⟩,
    ⟨0x1FBE, 0x1FBE, "ι"⟩, ⟨0x1FC2, 0x1FC4, "ὴι ηι ήι"⟩, ⟨0x1FC7, 0x1FCC, "ῆι ὲ έ ὴ ή ηι"⟩,
    ⟨0x1FD3, 0x1FD3, "ΐ"⟩, ⟨0x1FD8, 0x1FDB, "ῐ ῑ ὶ ί"⟩, ⟨0x1FE3, 0x1FE3, "ΰ"⟩,
    ⟨0x1FE8, 0x1FEC, "ῠ ῡ ὺ ύ ῥ"⟩, ⟨0x1FEF, 0x1FEF, "\x60"⟩, ⟨0x1FF2, 0x1FF4, "ὼι ωι ώι"⟩,
    ⟨0x1FF7, 0x1FFC, "ῶι ὸ ό ὼ ώ ωι"⟩, ⟨0x2011, 0x2011, "‐"⟩, ⟨0x2033, 0x2034, "′′ ′′′"⟩,
    ⟨0x2036, 0x2037, "‵‵ ‵‵‵"⟩, ⟨0x203C, 0x203C, "!!"⟩, ⟨0x2047, 0x2049, "?? ?! !?"⟩,
    ⟨0x2057, 0x2057, "′′′′"⟩, ⟨0x2070, 0x2071, "0 i"⟩, ⟨0x207A, 0x207F, "+ − = ( ) n"⟩,
    ⟨0x208A, 0x208E, "+ − = ( )"⟩, ⟨0x2090, 0x2095, "a e o x ə h"⟩, ⟨0x209A, 0x209C, "p s t"⟩,
    ⟨0x20A8, 0x20A8, "rs"⟩, ⟨0x2100, 0x2103, "a/c a/s c °c"⟩, ⟨0x2105, 0x2107, "c/o c/u ɛ"⟩,
    ⟨0x2109, 0x2113, "°f g h h h h ħ i i l l"⟩, ⟨0x2115, 0x2116, "n no"⟩, ⟨0x211C, 0x211D, "r r"⟩,
    ⟨0x2120, 0x2122, "sm tel tm"⟩, ⟨0x2124, 0x2124, "z"⟩, ⟨0x2126, 0x2126, "ω"⟩,
    ⟨0x2128, 0x2128, "z"⟩, ⟨0x212A, 0x212D, "k å b c"⟩, ⟨0x212F, 0x2134, "e e f ⅎ m o"⟩,
    ⟨0x2139, 0x2139, "i"⟩, ⟨0x213B, 0x2140, "fax π γ γ π ∑"⟩, ⟨0x2145, 0x2149, "d d e i j"⟩,
    ⟨0x2150, 0x2161, "1⁄7 1⁄9 1⁄10 1⁄3 2⁄3 1⁄5 2⁄5 3⁄5 4⁄5 1⁄6 5⁄6 1⁄8 3⁄8 5⁄8 7⁄8 1⁄ i ii"⟩,
    ⟨0x2162, 0x2178, "iii iv v vi vii viii ix x xi xii l c d m i ii iii iv v vi vii viii ix"⟩,
    ⟨0x2179, 0x217F, "x xi xii l c d m"⟩, ⟨0x2183, 0x2183, "ↄ"⟩, ⟨0x2189, 0x2189, "0⁄3"⟩,
    ⟨0x222C, 0x222D, "∫∫ ∫∫∫"⟩, ⟨0x222F, 0x2230, "∮∮ ∮∮∮"⟩, ⟨0x2329, 0x232A, "〈 〉"⟩,
    ⟨0x2469, 0x247C, "10 11 12 13 14 15 16 17 18 19 20 (1) (2) (3) (4) (5) (6) (7) (8) (9)"⟩,
    ⟨0x247D, 0x2487, "(10) (11) (12) (13) (14) (15) (16) (17) (18) (19) (20)"⟩,
    ⟨0x249C, 0x24AC, "(a) (b) (c) (d) (e) (f) (g) (h) (i) (j) (k) (l) (m) (n) (o) (p) (q)"⟩,
    ⟨0x24AD, 0x24B5, "(r) (s) (t) (u) (v) (w) (x) (y) (z)"⟩, ⟨0x24EA, 0x24EA, "0"⟩,
    ⟨0x2A0C, 0x2A0C, "∫∫∫∫"⟩, ⟨0x2A74, 0x2A76, "::= == ==="⟩, ⟨0x2ADC, 0x2ADC, "⫝̸"⟩,
    ⟨0x2C60, 0x2C60, "ⱡ"⟩, ⟨0x2C62, 0x2C64, "ɫ ᵽ ɽ"⟩, ⟨0x2C6D, 0x2C70, "ɑ ɱ ɐ ɒ"⟩,
    ⟨0x2C72, 0x2C72, "ⱳ"⟩, ⟨0x2C75, 0x2C75, "ⱶ"⟩, ⟨0x2C7C, 0x2C7F, "j v ȿ ɀ"⟩,
    ⟨0x2CEB, 0x2CEB, "ⳬ"⟩, ⟨0x2CED, 0x2CED, "ⳮ"⟩, ⟨0x2CF2, 0x2CF2, "ⳳ"⟩, ⟨0x2D6F, 0x2D6F, "ⵡ"⟩,
    ⟨0x2E9F, 0x2E9F, "母"⟩, ⟨0x2EF3, 0x2EF3, "龟"⟩,
    ⟨0x2F00, 0x2F22, "一 丨 丶 丿 乙 亅 二 亠 人 儿 入 八 冂 冖 冫 几 凵 刀 力 勹 匕 匚 匸 十 卜 卩 厂 厶 又 口 囗 土 士 夂 夊"⟩,
    ⟨0x2F23, 0x2F45, "夕 大 女 子 宀 寸 小 尢 尸 屮 山 巛 工 己 巾 干 幺 广 廴 廾 弋 弓 彐 彡 彳 心 戈 戶 手 支 攴 文 斗 斤 方"⟩,
    ⟨0x2F46, 0x2F68, "无 日 曰 月 木 欠 止 歹 殳 毋 比 毛 氏 气 水 火 爪 父 爻 爿 片 牙 牛 犬 玄 玉 瓜 瓦 甘 生 用 田 疋 疒 癶"⟩,
    ⟨0x2F69, 0x2F8B, "白 皮 皿 目 矛 矢 石 示 禸 禾 穴 立 竹 米 糸 缶 网 羊 羽 老 而 耒 耳 聿 肉 臣 自 至 臼 舌 舛 舟 艮 色 艸"⟩,
    ⟨0x2F8C, 0x2FAE, "虍 虫 血 行 衣 襾 見 角 言 谷 豆 豕 豸 貝 赤 走 足 身 車 辛 辰 辵 邑 酉 釆 里 金 長 門 阜 隶 隹 雨 靑 非"⟩,
    ⟨0x2FAF, 0x2FD1, "面 革 韋 韭 音 頁 風 飛 食 首 香 馬 骨 高 髟 鬥 鬯 鬲 鬼 魚 鳥 鹵 鹿 麥 麻 黃 黍 黑 黹 黽 鼎 鼓 鼠 鼻 齊"⟩,
    ⟨0x2FD2, 0x2FD5, "齒 龍 龜 龠"⟩, ⟨0x3002, 0x3002, "."⟩, ⟨0x3036, 0x3036, "〒"⟩,
    ⟨0x3038, 0x303A, "十 卄 卅"⟩, ⟨0x309F, 0x309F, "より"⟩, ⟨0x30FF, 0x30FF, "コト"⟩,
    ⟨0x3131, 0x3136, "ᄀ ᄁ ᆪ ᄂ ᆬ ᆭ"⟩, ⟨0x3140, 0x3140, "ᄚ"⟩, ⟨0x3144, 0x3144, "ᄡ"⟩,
    ⟨0x3165, 0x3177, "ᄔ ᄕ ᇇ ᇈ ᇌ ᇎ ᇓ ᇗ ᇙ ᄜ ᇝ ᇟ ᄝ ᄞ ᄠ ᄢ ᄣ ᄧ ᄩ"⟩, ⟨0x317D, 0x3183, "ᄲ ᄶ ᅀ ᅇ ᅌ ᇱ ᇲ"⟩,
    ⟨0x3187, 0x318E, "ᆄ ᆅ ᆈ ᆑ ᆒ ᆔ ᆞ ᆡ"⟩, ⟨0x3192, 0x319F, "一 二 三 四 上 中 下 甲 乙 丙 丁 天 地 人"⟩,
    ⟨0x3200, 0x3210, "(ᄀ) (ᄂ) (ᄃ) (ᄅ) (ᄆ) (ᄇ) (ᄉ) (ᄋ) (ᄌ) (ᄎ) (ᄏ) (ᄐ) (ᄑ) (ᄒ) (가) (나) (다)"⟩,
    ⟨0x3211, 0x321E, "(라) (마) (바) (사) (아) (자) (차) (카) (타) (파) (하) (주) (오전) (오후)"⟩,
    ⟨0x3220, 0x3230, "(一) (二) (三) (四) (五) (六) (七) (八) (九) (十) (月) (火) (水) (木) (金) (土) (日)"⟩,
    ⟨0x3231, 0x3241, "(株) (有) (社) (名) (特) (財) (祝) (労) (代) (呼) (学) (監) (企) (資) (協) (祭) (休)"⟩,
    ⟨0x3242, 0x3247, "(自) (至) 問 幼 文 箏"⟩,
    ⟨0x3250, 0x3262, "pte 21 22 23 24 25 26 27 28 29 30 31 32 33 34 35 ᄀ ᄂ ᄃ"⟩,
    ⟨0x3266, 0x3268, "ᄉ ᄋ ᄌ"⟩, ⟨0x326E, 0x327E, "가 나 다 라 마 바 사 아 자 차 카 타 파 하 참고 주의 우"⟩,
    ⟨0x3280, 0x32A2, "一 二 三 四 五 六 七 八 九 十 月 火 水 木 金 土 日 株 有 社 名 特 財 祝 労 秘 男 女 適 優 印 注 項 休 写"⟩,
    ⟨0x32A3, 0x32BE, "正 上 中 下 左 右 医 宗 学 監 企 資 協 夜 36 37 38 39 40 41 42 43 44 45 46 47 48 49"⟩,
    ⟨0x32BF, 0x32D6, "50 1月 2月 3月 4月 5月 6月 7月 8月 9月 10月 11月 12月 hg erg ev ltd ア イ ウ エ オ カ キ"⟩,
    ⟨0x32D7, 0x32E3, "ク ケ コ サ シ ス セ ソ タ チ ツ テ ト"⟩, ⟨0x32EA, 0x32ED, "ヒ フ ヘ ホ"⟩,
    ⟨0x32F3, 0x32F4, "ヤ ユ"⟩,
    ⟨0x32FF, 0x330D, "令和 アパート アルファ アンペア アール イニング インチ ウォン エスクード エーカー オンス オーム カイリ カラット カロリー"⟩,
    ⟨0x330E, 0x331B, "ガロン ガンマ ギガ ギニー キュリー ギルダー キロ キログラム キロメートル キロワット グラム グラムトン クルゼイロ クローネ"⟩,
    ⟨0x331C, 0x332C, "ケース コルナ コーポ サイクル サンチーム シリング センチ セント ダース デシ ドル トン ナノ ノット ハイツ パーセント パーツ"⟩,
    ⟨0x332D, 0x333C, "バーレル ピアストル ピクル ピコ ビル ファラッド フィート ブッシェル フラン ヘクタール ペソ ペニヒ ヘルツ ペンス ページ ベータ"⟩,
    ⟨0x333D, 0x334C, "ポイント ボルト ホン ポンド ホール ホーン マイクロ マイル マッハ マルク マンション ミクロン ミリ ミリバール メガ メガトン"⟩,
    ⟨0x334D, 0x335F, "メートル ヤード ヤール ユアン リットル リラ ルピー ルーブル レム レントゲン ワット 0点 1点 2点 3点 4点 5点 6点 7点"⟩,
    ⟨0x3360, 0x3371, "8点 9点 10点 11点 12点 13点 14点 15点 16点 17点 18点 19点 20点 21点 22点 23点 24点 hpa"⟩,
    ⟨0x3372, 0x3387, "da au bar ov pc dm dm2 dm3 iu 平成 昭和 大正 明治 株式会社 pa na μa ma ka kb mb gb"⟩,
    ⟨0x3388, 0x339C, "cal kcal pf nf μf μg mg kg hz khz mhz ghz thz μl ml dl kl fm nm μm mm"⟩,
    ⟨0x339D, 0x33AE, "cm km mm2 cm2 m2 km2 mm3 cm3 m3 km3 m∕s m∕s2 pa kpa mpa gpa rad rad∕s"⟩,
    ⟨0x33AF, 0x33C1, "rad∕s2 ps ns μs ms pv nv μv mv kv mv pw nw μw mw kw mw kω mω"⟩,
    ⟨0x33C3, 0x33C6, "bq cc cd c∕kg"⟩,
    ⟨0x33C8, 0x33D7, "db gy ha hp in kk km kt lm ln log lx mb mil mol ph"⟩,
    ⟨0x33D9, 0x33ED, "ppm pr sr sv wb v∕m a∕m 1日 2日 3日 4日 5日 6日 7日 8日 9日 10日 11日 12日 13日 14日"⟩,
    ⟨0x33EE, 0x33FE, "15日 16日 17日 18日 19日 20日 21日 22日 23日 24日 25日 26日 27日 28日 29日 30日 31日"⟩,
    ⟨0x33FF, 0x33FF, "gal"⟩, ⟨0xA69C, 0xA69D, "ъ ь"⟩, ⟨0xA770, 0xA770, "ꝯ"⟩, ⟨0xA779, 0xA779, "ꝺ"⟩,
    ⟨0xA77B, 0xA77B, "ꝼ"⟩, ⟨0xA77D, 0xA77D, "ᵹ"⟩, ⟨0xA78B, 0xA78B, "ꞌ"⟩, ⟨0xA78D, 0xA78D, "ɥ"⟩,
    ⟨0xA790, 0xA790, "ꞑ"⟩, ⟨0xA792, 0xA792, "ꞓ"⟩, ⟨0xA7AA, 0xA7AE, "ɦ ɜ ɡ ɬ ɪ"⟩,
    ⟨0xA7B0, 0xA7B3, "ʞ ʇ ʝ ꭓ"⟩, ⟨0xA7C4, 0xA7C7, "ꞔ ʂ ᶎ ꟈ"⟩, ⟨0xA7C9, 0xA7C9, "ꟊ"⟩,
    ⟨0xA7CB, 0xA7CB, "ɤ"⟩, ⟨0xA7DC, 0xA7DC, "ƛ"⟩, ⟨0xA7F1, 0xA7F5, "s c f q ꟶ"⟩,
    ⟨0xA7F8, 0xA7F9, "ħ œ"⟩, ⟨0xAB5C, 0xAB5F, "ꜧ ꬷ ɫ ꭒ"⟩, ⟨0xAB69, 0xAB69, "ʍ"⟩,
    ⟨0xF900, 0xF922, "豈 更 車 賈 滑 串 句 龜 龜 契 金 喇 奈 懶 癩 羅 蘿 螺 裸 邏 樂 洛 烙 珞 落 酪 駱 亂 卵 欄 爛 蘭 鸞 嵐 濫"⟩,
    ⟨0xF923, 0xF945, "藍 襤 拉 臘 蠟 廊 朗 浪 狼 郎 來 冷 勞 擄 櫓 爐 盧 老 蘆 虜 路 露 魯 鷺 碌 祿 綠 菉 錄 鹿 論 壟 弄 籠 聾"⟩,
    ⟨0xF946, 0xF968, "牢 磊 賂 雷 壘 屢 樓 淚 漏 累 縷 陋 勒 肋 凜 凌 稜 綾 菱 陵 讀 拏 樂 諾 丹 寧 怒 率 異 北 磻 便 復 不 泌"⟩,
    ⟨0xF969, 0xF98B, "數 索 參 塞 省 葉 說 殺 辰 沈 拾 若 掠 略 亮 兩 凉 梁 糧 良 諒 量 勵 呂 女 廬 旅 濾 礪 閭 驪 麗 黎 力 曆"⟩,
    ⟨0xF98C, 0xF9AE, "歷 轢 年 憐 戀 撚 漣 煉 璉 秊 練 聯 輦 蓮 連 鍊 列 劣 咽 烈 裂 說 廉 念 捻 殮 簾 獵 令 囹 寧 嶺 怜 玲 瑩"⟩,
    ⟨0xF9AF, 0xF9D1, "羚 聆 鈴 零 靈 領 例 禮 醴 隸 惡 了 僚 寮 尿 料 樂 燎 療 蓼 遼 龍 暈 阮 劉 杻 柳 流 溜 琉 留 硫 紐 類 六"⟩,
    ⟨0xF9D2, 0xF9F4, "戮 陸 倫 崙 淪 輪 律 慄 栗 率 隆 利 吏 履 易 李 梨 泥 理 痢 罹 裏 裡 里 離 匿 溺 吝 燐 璘 藺 隣 鱗 麟 林"⟩,
    ⟨0xF9F5, 0xFA0D, "淋 臨 立 笠 粒 狀 炙 識 什 茶 刺 切 度 拓 糖 宅 洞 暴 輻 行 降 見 廓 兀 嗀"⟩, ⟨0xFA10, 0xFA10, "塚"⟩,
    ⟨0xFA12, 0xFA12, "晴"⟩, ⟨0xFA15, 0xFA1E, "凞 猪 益 礼 神 祥 福 靖 精 羽"⟩, ⟨0xFA20, 0xFA20, "蘒"⟩,
    ⟨0xFA22, 0xFA22, "諸"⟩, ⟨0xFA25, 0xFA26, "逸 都"⟩,
    ⟨0xFA2A, 0xFA4C, "飯 飼 館 鶴 郞 隷 侮 僧 免 勉 勤 卑 喝 嘆 器 塀 墨 層 屮 悔 慨 憎 懲 敏 既 暑 梅 海 渚 漢 煮 爫 琢 碑 社"⟩,
    ⟨0xFA4D, 0xFA6D, "祉 祈 祐 祖 祝 禍 禎 穀 突 節 練 縉 繁 署 者 臭 艹 艹 著 褐 視 謁 謹 賓 贈 辶 逸 難 響 頻 恵 𤋮 舘"⟩,
    ⟨0xFA70, 0xFA92, "並 况 全 侀 充 冀 勇 勺 喝 啕 喙 嗢 塚 墳 奄 奔 婢 嬨 廒 廙 彩 徭 惘 慎 愈 憎 慠 懲 戴 揄 搜 摒 敖 晴 朗"⟩,
    ⟨0xFA93, 0xFAB5, "望 杖 歹 殺 流 滛 滋 漢 瀞 煮 瞧 爵 犯 猪 瑱 甆 画 瘝 瘟 益 盛 直 睊 着 磌 窱 節 类 絛 練 缾 者 荒 華 蝹"⟩,
    ⟨0xFAB6, 0xFAD8, "襁 覆 視 調 諸 請 謁 諾 諭 謹 變 贈 輸 遲 醙 鉶 陼 難 靖 韛 響 頋 頻 鬒 龜 𢡊 𢡄 𣏕 㮝 䀘 䀹 𥉉 𥳐 𧻓 齃"⟩,
    ⟨0xFAD9, 0xFAD9, "龎"⟩, ⟨0xFB00, 0xFB06, "ff fi fl ffi ffl st st"⟩,
    ⟨0xFB13, 0xFB17, "մն մե մի վն մխ"⟩, ⟨0xFB1D, 0xFB1D, "יִ"⟩, ⟨0xFB1F, 0xFB23, "ײַ ע א ד ה"⟩,
    ⟨0xFB27, 0xFB36, "ר ת + שׁ שׂ שּׁ שּׂ אַ אָ אּ בּ גּ דּ הּ וּ זּ"⟩,
    ⟨0xFB38, 0xFB3C, "טּ יּ ךּ כּ לּ"⟩, ⟨0xFB3E, 0xFB3E, "מּ"⟩, ⟨0xFB40, 0xFB41, "נּ סּ"⟩,
    ⟨0xFB43, 0xFB44, "ףּ פּ"⟩,
    ⟨0xFB46, 0xFB63, "צּ קּ רּ שּ תּ וֹ בֿ כֿ פֿ אל ٱ ٱ ٻ ٻ ٻ ٻ پ پ پ پ ڀ ڀ ڀ ڀ ٺ ٺ ٺ ٺ ٿ ٿ"⟩,
    ⟨0xFB64, 0xFB86, "ٿ ٿ ٹ ٹ ٹ ٹ ڤ ڤ ڤ ڤ ڦ ڦ ڦ ڦ ڄ ڄ ڄ ڄ ڃ ڃ ڃ ڃ چ چ چ چ ڇ ڇ ڇ ڇ ڍ ڍ ڌ ڌ ڎ"⟩,
    ⟨0xFB87, 0xFBA9, "ڎ ڈ ڈ ژ ژ ڑ ڑ ک ک ک ک گ گ گ گ ڳ ڳ ڳ ڳ ڱ ڱ ڱ ڱ ں ں ڻ ڻ ڻ ڻ ۀ ۀ ہ ہ ہ ہ"⟩,
    ⟨0xFBAA, 0xFBB1, "ھ ھ ھ ھ ے ے ۓ ۓ"⟩,
    ⟨0xFBD3, 0xFBF1, "ڭ ڭ ڭ ڭ ۇ ۇ ۆ ۆ ۈ ۈ ۇٴ ۋ ۋ ۅ ۅ ۉ ۉ ې ې ې ې ى ى ئا ئا ئە ئە ئو ئو ئۇ ئۇ"⟩,
    ⟨0xFBF2, 0xFC0A, "ئۆ ئۆ ئۈ ئۈ ئې ئې ئې ئى ئى ئى ی ی ی ی ئج ئح ئم ئى ئي بج بح بخ بم بى بي"⟩,
    ⟨0xFC0B, 0xFC21, "تج تح تخ تم تى تي ثج ثم ثى ثي جح جم حج حم خج خح خم سج سح سخ سم صح صم"⟩,
    ⟨0xFC22, 0xFC38, "ضج ضح ضخ ضم طح طم ظم عج عم غج غم فج فح فخ فم فى في قح قم قى قي كا كج"⟩,
    ⟨0xFC39, 0xFC4F, "كح كخ كل كم كى كي لج لح لخ لم لى لي مج مح مخ مم مى مي نج نح نخ نم نى"⟩,
    ⟨0xFC50, 0xFC5D, "ني هج هم هى هي يج يح يخ يم يى يي ذٰ رٰ ىٰ"⟩,
    ⟨0xFC64, 0xFC7A, "ئر ئز ئم ئن ئى ئي بر بز بم بن بى بي تر تز تم تن تى تي ثر ثز ثم ثن ثى"⟩,
    ⟨0xFC7B, 0xFC91, "ثي فى في قى قي كا كل كم كى كي لم لى لي ما مم نر نز نم نن نى ني ىٰ ير"⟩,
    ⟨0xFC92, 0xFCA8, "يز يم ين يى يي ئج ئح ئخ ئم ئه بج بح بخ بم به تج تح تخ تم ته ثم جح جم"⟩,
    ⟨0xFCA9, 0xFCBF, "حج حم خج خم سج سح سخ سم صح صخ صم ضج ضح ضخ ضم طح ظم عج عم غج غم فج فح"⟩,
    ⟨0xFCC0, 0xFCD6, "فخ فم قح قم كج كح كخ كل كم لج لح لخ لم له مج مح مخ مم نج نح نخ نم نه"⟩,
    ⟨0xFCD7, 0xFCED, "هج هم هٰ يج يح يخ يم يه ئم ئه بم به تم ته ثم ثه سم سه شم شه كل كم لم"⟩,
    ⟨0xFCEE, 0xFD03, "نم نه يم يه ـَّ ـُّ ـِّ طى طي عى عي غى غي سى سي شى شي حى حي جى جي خى"⟩,
    ⟨0xFD04, 0xFD1A, "خي صى صي ضى ضي شج شح شخ شم شر سر صر ضر طى طي عى عي غى غي سى سي شى شي"⟩,
    ⟨0xFD1B, 0xFD31, "حى حي جى جي خى خي صى صي ضى ضي شج شح شخ شم شر سر صر ضر شج شح شخ شم سه"⟩,
    ⟨0xFD32, 0xFD3D, "شه طم سج سح سخ شج شح شخ طم ظم اً اً"⟩,
    ⟨0xFD50, 0xFD60, "تجم تحج تحج تحم تخم تمج تمح تمخ جمح جمح حمي حمى سحج سجح سجى سمح سمح"⟩,
    ⟨0xFD61, 0xFD71, "سمج سمم سمم صحح صحح صمم شحم شحم شجي شمخ شمخ شمم شمم ضحى ضخم ضخم طمح"⟩,
    ⟨0xFD72, 0xFD82, "طمح طمم طمي عجم عمم عمم عمى غمم غمي غمى فخم فخم قمح قمم لحم لحي لحى"⟩,
    ⟨0xFD83, 0xFD8F, "لجج لجج لخم لخم لمح لمح محج محم محي مجح مجم مخج مخم"⟩,
    ⟨0xFD92, 0xFDA2, "مجخ همج همم نحم نحى نجم نجم نجى نمي نمى يمم يمم بخي تجي تجى تخي تخى"⟩,
    ⟨0xFDA3, 0xFDB3, "تمي تمى جمي جحى جمى سخى صحي شحي ضحي لجي لمي يحي يجي يمي ممي قمي نحي"⟩,
    ⟨0xFDB4, 0xFDC4, "قمح لحم عمي كمي نجح مخي لجم كمم لجم نجح جحي حجي مجي فمي بحي كمم عجم"⟩,
    ⟨0xFDC5, 0xFDC7, "صمم سخي نجي"⟩,
    ⟨0xFDF0, 0xFDF9, "صلے قلے الله اكبر محمد صلعم رسول عليه وسلم صلى"⟩, ⟨0xFDFC, 0xFDFC, "ریال"⟩,
    ⟨0xFE10, 0xFE11, ", 、"⟩, ⟨0xFE13, 0xFE18, ": ; ! ? 〖 〗"⟩,
    ⟨0xFE31, 0xFE40, "— – _ _ ( ) \x7b \x7d 〔 〕 【 】 《 》 〈 〉"⟩, ⟨0xFE47, 0xFE48, "[ ]"⟩,
    ⟨0xFE4D, 0xFE51, "_ _ _ , 、"⟩, ⟨0xFE54, 0xFE66, "; : ? ! — ( ) \x7b \x7d 〔 〕 # & * + - < > ="⟩,
    ⟨0xFE68, 0xFE6B, "\\ $ % @"⟩, ⟨0xFE71, 0xFE71, "ـً"⟩, ⟨0xFE77, 0xFE77, "ـَ"⟩,
    ⟨0xFE79, 0xFE79, "ـُ"⟩, ⟨0xFE7B, 0xFE7B, "ـِ"⟩, ⟨0xFE7D, 0xFE7D, "ـّ"⟩,
    ⟨0xFE7F, 0xFEA1, "ـْ ء آ آ أ أ ؤ ؤ إ إ ئ ئ ئ ئ ا ا ب ب ب ب ة ة ت ت ت ت ث ث ث ث ج ج ج ج ح"⟩,
    ⟨0xFEA2, 0xFEC4, "ح ح ح خ خ خ خ د د ذ ذ ر ر ز ز س س س س ش ش ش ش ص ص ص ص ض ض ض ض ط ط ط ط"⟩,
    ⟨0xFEC5, 0xFEE7, "ظ ظ ظ ظ ع ع ع ع غ غ غ غ ف ف ف ف ق ق ق ق ك ك ك ك ل ل ل ل م م م م ن ن ن"⟩,
    ⟨0xFEE8, 0xFEFC, "ن ه ه ه ه و و ى ى ي ي ي ي لآ لآ لأ لأ لإ لإ لا لا"⟩,
    ⟨0xFF5F, 0xFF81, "⦅ ⦆ . 「 」 、 ・ ヲ ァ ィ ゥ ェ ォ ャ ュ ョ ッ ー ア イ ウ エ オ カ キ ク ケ コ サ シ ス セ ソ タ チ"⟩,
    ⟨0xFF82, 0xFF84, "ツ テ ト"⟩, ⟨0xFF8B, 0xFF8E, "ヒ フ ヘ ホ"⟩, ⟨0xFF94, 0xFF95, "ヤ ユ"⟩,
    ⟨0xFF9C, 0xFF9F, "ワ ン ゙ ゚"⟩, ⟨0xFFA1, 0xFFA6, "ᄀ ᄁ ᆪ ᄂ ᆬ ᆭ"⟩, ⟨0xFFB0, 0xFFB0, "ᄚ"⟩,
    ⟨0xFFB4, 0xFFB4, "ᄡ"⟩, ⟨0xFFE0, 0xFFE2, "¢ £ ¬"⟩, ⟨0xFFE4, 0xFFE6, "¦ ¥ ₩"⟩,
    ⟨0xFFE8, 0xFFE8, "│"⟩, ⟨0xFFED, 0xFFEE, "■ ○"⟩, ⟨0x10595, 0x10595, "𐖼"⟩,
    ⟨0x10781, 0x10785, "ː ˑ æ ʙ ɓ"⟩,
    ⟨0x10787, 0x107A9, "ʣ ꭦ ʥ ʤ ɖ ɗ ᶑ ɘ ɞ ʩ ɤ ɢ ɠ ʛ ħ ʜ ɧ ʄ ʪ ʫ ɬ 𝼄 ꞎ ɮ 𝼅 ʎ 𝼆 ø ɶ ɷ q ɺ 𝼈 ɽ ɾ"⟩,
    ⟨0x107AA, 0x107B0, "ʀ ʨ ʦ ꭧ ʧ ʈ ⱱ"⟩, ⟨0x107B2, 0x107B5, "ʏ ʡ ʢ ʘ"⟩, ⟨0x107B9, 0x107BA, "𝼊 𝼞"⟩,
    ⟨0x1D15E, 0x1D164, "𝅗𝅥 𝅘𝅥 𝅘𝅥𝅮 𝅘𝅥𝅯 𝅘𝅥𝅰 𝅘𝅥𝅱 𝅘𝅥𝅲"⟩, ⟨0x1D1BB, 0x1D1C0, "𝆹𝅥 𝆺𝅥 𝆹𝅥𝅮 𝆺𝅥𝅮 𝆹𝅥𝅯 𝆺𝅥𝅯"⟩,
    ⟨0x1D49C, 0x1D49C, "a"⟩, ⟨0x1D49E, 0x1D49F, "c d"⟩, ⟨0x1D4A2, 0x1D4A2, "g"⟩,
    ⟨0x1D4A5, 0x1D4A6, "j k"⟩, ⟨0x1D504, 0x1D504, "a"⟩, ⟨0x1D508, 0x1D508, "e"⟩,
    ⟨0x1D50A, 0x1D50A, "g"⟩, ⟨0x1D538, 0x1D538, "a"⟩, ⟨0x1D541, 0x1D541, "j"⟩,
    ⟨0x1D543, 0x1D543, "l"⟩, ⟨0x1D6A4, 0x1D6A5, "ı ȷ"⟩, ⟨0x1D6B9, 0x1D6B9, "θ"⟩,
    ⟨0x1D6C1, 0x1D6C1, "∇"⟩, ⟨0x1D6D3, 0x1D6D3, "σ"⟩, ⟨0x1D6DB, 0x1D6E1, "∂ ε θ κ φ ρ π"⟩,
    ⟨0x1D6F3, 0x1D6F3, "θ"⟩, ⟨0x1D6FB, 0x1D6FB, "∇"⟩, ⟨0x1D70D, 0x1D70D, "σ"⟩,
    ⟨0x1D715, 0x1D71B, "∂ ε θ κ φ ρ π"⟩, ⟨0x1D72D, 0x1D72D, "θ"⟩, ⟨0x1D735, 0x1D735, "∇"⟩,
    ⟨0x1D747, 0x1D747, "σ"⟩, ⟨0x1D74F, 0x1D755, "∂ ε θ κ φ ρ π"⟩, ⟨0x1D767, 0x1D767, "θ"⟩,
    ⟨0x1D76F, 0x1D76F, "∇"⟩, ⟨0x1D781, 0x1D781, "σ"⟩, ⟨0x1D789, 0x1D78F, "∂ ε θ κ φ ρ π"⟩,
    ⟨0x1D7A1, 0x1D7A1, "θ"⟩, ⟨0x1D7A9, 0x1D7A9, "∇"⟩, ⟨0x1D7BB, 0x1D7BB, "σ"⟩,
    ⟨0x1D7C3, 0x1D7CB, "∂ ε θ κ φ ρ π ϝ ϝ"⟩, ⟨0x1E047, 0x1E050, "ы э ю ꚉ ә і ј ө ү ӏ"⟩,
    ⟨0x1E05A, 0x1E05E, "к л о п с"⟩, ⟨0x1E065, 0x1E06D, "ъ ы ґ і ѕ џ ҫ ꙑ ұ"⟩,
    ⟨0x1EE00, 0x1EE03, "ا ب ج د"⟩, ⟨0x1EE05, 0x1EE09, "و ز ح ط ي"⟩,
    ⟨0x1EE0E, 0x1EE1F, "س ع ف ص ق ر ش ت ث خ ذ ض ظ غ ٮ ں ڡ ٯ"⟩, ⟨0x1EE21, 0x1EE22, "ب ج"⟩,
    ⟨0x1EE24, 0x1EE24, "ه"⟩, ⟨0x1EE27, 0x1EE27, "ح"⟩, ⟨0x1EE29, 0x1EE29, "ي"⟩,
    ⟨0x1EE2E, 0x1EE32, "س ع ف ص ق"⟩, ⟨0x1EE34, 0x1EE37, "ش ت ث خ"⟩, ⟨0x1EE39, 0x1EE39, "ض"⟩,
    ⟨0x1EE3B, 0x1EE3B, "غ"⟩, ⟨0x1EE42, 0x1EE42, "ج"⟩, ⟨0x1EE47, 0x1EE47, "ح"⟩,
    ⟨0x1EE49, 0x1EE49, "ي"⟩, ⟨0x1EE4B, 0x1EE4B, "ل"⟩, ⟨0x1EE4D, 0x1EE4F, "ن س ع"⟩,
    ⟨0x1EE51, 0x1EE52, "ص ق"⟩, ⟨0x1EE54, 0x1EE54, "ش"⟩, ⟨0x1EE57, 0x1EE57, "خ"⟩,
    ⟨0x1EE59, 0x1EE59, "ض"⟩, ⟨0x1EE5B, 0x1EE5B, "غ"⟩, ⟨0x1EE5D, 0x1EE5D, "ں"⟩,
    ⟨0x1EE5F, 0x1EE5F, "ٯ"⟩, ⟨0x1EE61, 0x1EE62, "ب ج"⟩, ⟨0x1EE64, 0x1EE64, "ه"⟩,
    ⟨0x1EE67, 0x1EE6A, "ح ط ي ك"⟩, ⟨0x1EE6C, 0x1EE72, "م ن س ع ف ص ق"⟩,
    ⟨0x1EE74, 0x1EE77, "ش ت ث خ"⟩, ⟨0x1EE79, 0x1EE7C, "ض ظ غ ٮ"⟩, ⟨0x1EE7E, 0x1EE7E, "ڡ"⟩,
    ⟨0x1EE80, 0x1EE89, "ا ب ج د ه و ز ح ط ي"⟩, ⟨0x1EE8E, 0x1EE9B, "س ع ف ص ق ر ش ت ث خ ذ ض ظ غ"⟩,
    ⟨0x1EEA1, 0x1EEA3, "ب ج د"⟩, ⟨0x1EEA5, 0x1EEA9, "و ز ح ط ي"⟩,
    ⟨0x1EEAE, 0x1EEBB, "س ع ف ص ق ر ش ت ث خ ذ ض ظ غ"⟩,
    ⟨0x1F101, 0x1F10A, "0, 1, 2, 3, 4, 5, 6, 7, 8, 9,"⟩,
    ⟨0x1F110, 0x1F120, "(a) (b) (c) (d) (e) (f) (g) (h) (i) (j) (k) (l) (m) (n) (o) (p) (q)"⟩,
    ⟨0x1F121, 0x1F12E, "(r) (s) (t) (u) (v) (w) (x) (y) (z) 〔s〕 c r cd wz"⟩,
    ⟨0x1F14A, 0x1F14F, "hv mv sd ss ppv wc"⟩, ⟨0x1F16A, 0x1F16C, "mc md mr"⟩,
    ⟨0x1F190, 0x1F190, "dj"⟩, ⟨0x1F200, 0x1F202, "ほか ココ サ"⟩,
    ⟨0x1F210, 0x1F232, "手 字 双 デ 二 多 解 天 交 映 無 料 前 後 再 新 初 終 生 販 声 吹 演 投 捕 一 三 遊 左 中 右 指 走 打 禁"⟩,
    ⟨0x1F233, 0x1F23B, "空 合 満 有 月 申 割 営 配"⟩,
    ⟨0x1F240, 0x1F248, "〔本〕 〔三〕 〔二〕 〔安〕 〔点〕 〔打〕 〔盗〕 〔勝〕 〔敗〕"⟩, ⟨0x1F250, 0x1F251, "得 可"⟩,
    ⟨0x2F800, 0x2F822, "丽 丸 乁 𠄢 你 侮 侻 倂 偺 備 僧 像 㒞 𠘺 免 兔 兤 具 𠔜 㒹 內 再 𠕋 冗 冤 仌 冬 况 𩇟 凵 刃 㓟 刻 剆 割"⟩,
    ⟨0x2F823, 0x2F845, "剷 㔕 勇 勉 勤 勺 包 匆 北 卉 卑 博 即 卽 卿 卿 卿 𠨬 灰 及 叟 𠭣 叫 叱 吆 咞 吸 呈 周 咢 哶 唐 啓 啣 善"⟩,
    ⟨0x2F846, 0x2F868, "善 喙 喫 喳 嗂 圖 嘆 圗 噑 噴 切 壮 城 埴 堍 型 堲 報 墬 𡓤 売 壷 夆 多 夢 奢 𡚨 𡛪 姬 娛 娧 姘 婦 㛮 㛼"⟩,
    ⟨0x2F869, 0x2F88B, "嬈 嬾 嬾 𡧈 寃 寘 寧 寳 𡬘 寿 将 当 尢 㞁 屠 屮 峀 岍 𡷤 嵃 𡷦 嵮 嵫 嵼 巡 巢 㠯 巽 帨 帽 幩 㡢 𢆃 㡼 庰"⟩,
    ⟨0x2F88C, 0x2F8AE, "庳 庶 廊 𪎒 廾 𢌱 𢌱 舁 弢 弢 㣇 𣊸 𦇚 形 彫 㣣 徚 忍 志 忹 悁 㤺 㤜 悔 𢛔 惇 慈 慌 慎 慌 慺 憎 憲 憤 憯"⟩,
    ⟨0x2F8AF, 0x2F8D1, "懞 懲 懶 成 戛 扝 抱 拔 捐 𢬌 挽 拼 捨 掃 揤 𢯱 搢 揅 掩 㨮 摩 摾 撝 摷 㩬 敏 敬 𣀊 旣 書 晉 㬙 暑 㬈 㫤"⟩,
    ⟨0x2F8D2, 0x2F8F4, "冒 冕 最 暜 肭 䏙 朗 望 朡 杞 杓 𣏃 㭉 柺 枅 桒 梅 𣑭 梎 栟 椔 㮝 楂 榣 槪 檨 𣚣 櫛 㰘 次 𣢧 歔 㱎 歲 殟"⟩,
    ⟨0x2F8F5, 0x2F917, "殺 殻 𣪍 𡴋 𣫺 汎 𣲼 沿 泍 汧 洖 派 海 流 浩 浸 涅 𣴞 洴 港 湮 㴳 滋 滇 𣻑 淹 潮 𣽞 𣾎 濆 瀹 瀞 瀛 㶖 灊"⟩,
    ⟨0x2F918, 0x2F93A, "災 灷 炭 𠔥 煅 𤉣 熜 𤎫 爨 爵 牐 𤘈 犀 犕 𤜵 𤠔 獺 王 㺬 玥 㺸 㺸 瑇 瑜 瑱 璅 瓊 㼛 甤 𤰶 甾 𤲒 異 𢆟 瘐"⟩,
    ⟨0x2F93B, 0x2F95D, "𤾡 𤾸 𥁄 㿼 䀈 直 𥃳 𥃲 𥄙 𥄳 眞 真 真 睊 䀹 瞋 䁆 䂖 𥐝 硎 碌 磌 䃣 𥘦 祖 𥚚 𥛅 福 秫 䄯 穀 穊 穏 𥥼 𥪧"⟩,
    ⟨0x2F95E, 0x2F980, "𥪧 竮 䈂 𥮫 篆 築 䈧 𥲀 糒 䊠 糨 糣 紀 𥾆 絣 䌁 緇 縂 繅 䌴 𦈨 𦉇 䍙 𦋙 罺 𦌾 羕 翺 者 𦓚 𦔣 聠 𦖨 聰 𣍟"⟩,
    ⟨0x2F981, 0x2F9A3, "䏕 育 脃 䐋 脾 媵 𦞧 𦞵 𣎓 𣎜 舁 舄 辞 䑫 芑 芋 芝 劳 花 芳 芽 苦 𦬼 若 茝 荣 莭 茣 莽 菧 著 荓 菊 菌 菜"⟩,
    ⟨0x2F9A4, 0x2F9C6, "𦰶 𦵫 𦳕 䔫 蓱 蓳 蔖 𧏊 蕤 𦼬 䕝 䕡 𦾱 𧃒 䕫 虐 虜 虧 虩 蚩 蚈 蜎 蛢 蝹 蜨 蝫 螆 䗗 蟡 蠁 䗹 衠 衣 𧙧 裗"⟩,
    ⟨0x2F9C7, 0x2F9E9, "裞 䘵 裺 㒻 𧢮 𧥦 䚾 䛇 誠 諭 變 豕 𧲨 貫 賁 贛 起 𧼯 𠠄 跋 趼 跰 𠣞 軔 輸 𨗒 𨗭 邔 郱 鄑 𨜮 鄛 鈸 鋗 鋘"⟩,
    ⟨0x2F9EA, 0x2FA0C, "鉼 鏹 鐕 𨯺 開 䦕 閷 𨵷 䧦 雃 嶲 霣 𩅅 𩈚 䩮 䩶 韠 𩐊 䪲 𩒖 頋 頋 頩 𩖶 飢 䬳 餩 馧 駂 駾 䯎 𩬰 鬒 鱀 鳽"⟩,
    ⟨0x2FA0D, 0x2FA1D, "䳎 䳭 鵧 𪃎 䳸 𪄅 𪈎 𪊑 麻 䵖 黹 黾 鼅 鼏 鼖 鼻 𪘀"⟩]

namespace Chart

/-- The text of a code point under the charts; none when no chart holds it. -/
def text? : List Chart → Nat → Option (List Char)
  | [], _ => none
  | chart :: rest, n =>
    if n < chart.first then none
    else if n ≤ chart.last then (chart.texts.toList.splitOn ' ')[n - chart.first]?
    else text? rest n

end Chart

/-- The text that a character stands for in a host name. -/
def mapChar (c : Char) : List Char :=
  if c.toNat < 0x80 then [c.toLower]
  else if Text.inRanges ignoredRanges c.toNat then []
  else
    match Text.CaseRun.image? mappingRuns c.toNat with
    | some n => [Char.ofNat n]
    | none => (Chart.text? charts c.toNat).getD [c]

end HttpGateway.Url
