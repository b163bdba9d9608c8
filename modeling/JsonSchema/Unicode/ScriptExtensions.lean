import JsonSchema.Unicode.Scripts

/-!
# Script extensions

The characters that a script uses although their own script is another one or none, by the script's
long name, and those whose own script is common or inherited but which belong to named scripts.
-/

set_option autoImplicit false

namespace JsonSchema.Unicode

def extraAdlam : CodeTable := [
  0x61F, 0x620, 0x640, 0x641]

def extraArabic : CodeTable := [
  0x60C, 0x60D, 0x61B, 0x61C, 0x61F, 0x620, 0x640, 0x641, 0x64B, 0x656, 0x670, 0x671, 0xFD3E,
  0xFD40, 0x102E0, 0x102FC]

def extraBengali : CodeTable := [
  0x951, 0x953, 0x964, 0x966, 0x1CD0, 0x1CD1, 0x1CD2, 0x1CD3, 0x1CD5, 0x1CD7, 0x1CD8, 0x1CD9,
  0x1CE1, 0x1CE2, 0x1CEA, 0x1CEB, 0x1CED, 0x1CEE, 0x1CF2, 0x1CF3, 0x1CF5, 0x1CF8, 0xA8F1, 0xA8F2]

def extraBopomofo : CodeTable := [
  0x3001, 0x3004, 0x3008, 0x3012, 0x3013, 0x3020, 0x302A, 0x302E, 0x3030, 0x3031, 0x3037, 0x3038,
  0x30FB, 0x30FC, 0xFE45, 0xFE47, 0xFF61, 0xFF66]

def extraBuginese : CodeTable := [
  0xA9CF, 0xA9D0]

def extraBuhid : CodeTable := [
  0x1735, 0x1737]

def extraChakma : CodeTable := [
  0x9E6, 0x9F0, 0x1040, 0x104A]

/-- Characters of script `common` that belong to named scripts. -/
def borrowedFromCommon : CodeTable := [
  0x60C, 0x60D, 0x61B, 0x61C, 0x61F, 0x620, 0x640, 0x641, 0x964, 0x966, 0x10FB, 0x10FC, 0x1735,
  0x1737, 0x1802, 0x1804, 0x1805, 0x1806, 0x1CD3, 0x1CD4, 0x1CE1, 0x1CE2, 0x1CE9, 0x1CED, 0x1CEE,
  0x1CF4, 0x1CF5, 0x1CF8, 0x1CFA, 0x1CFB, 0x202F, 0x2030, 0x2E43, 0x2E44, 0x3001, 0x3004, 0x3006,
  0x3007, 0x3008, 0x3012, 0x3013, 0x3020, 0x3030, 0x3036, 0x3037, 0x3038, 0x303C, 0x3040, 0x309B,
  0x309D, 0x30A0, 0x30A1, 0x30FB, 0x30FD, 0x3190, 0x31A0, 0x31C0, 0x31E4, 0x3220, 0x3248, 0x3280,
  0x32B1, 0x32C0, 0x32CC, 0x32FF, 0x3300, 0x3358, 0x3371, 0x337B, 0x3380, 0x33E0, 0x33FF, 0xA700,
  0xA708, 0xA830, 0xA83A, 0xA92E, 0xA92F, 0xA9CF, 0xA9D0, 0xFD3E, 0xFD40, 0xFE45, 0xFE47, 0xFF61,
  0xFF66, 0xFF70, 0xFF71, 0xFF9E, 0xFFA0, 0x10100, 0x10103, 0x10107, 0x10134, 0x10137, 0x10140,
  0x102E1, 0x102FC, 0x1BCA0, 0x1BCA4, 0x1D360, 0x1D372, 0x1F250, 0x1F252]

def extraCoptic : CodeTable := [
  0x102E0, 0x102FC]

def extraCypriot : CodeTable := [
  0x10100, 0x10103, 0x10107, 0x10134, 0x10137, 0x10140]

def extraCyproMinoan : CodeTable := [
  0x10100, 0x10102]

def extraCyrillic : CodeTable := [
  0x485, 0x487, 0x1DF8, 0x1DF9, 0x2E43, 0x2E44]

def extraDevanagari : CodeTable := [
  0x951, 0x953, 0x964, 0x966, 0x1CD0, 0x1CF7, 0x1CF8, 0x1CFA, 0x20F0, 0x20F1, 0xA830, 0xA83A]

def extraDogra : CodeTable := [
  0x964, 0x970, 0xA830, 0xA83A]

def extraDuployan : CodeTable := [
  0x1BCA0, 0x1BCA4]

def extraGeorgian : CodeTable := [
  0x10FB, 0x10FC]

def extraGlagolitic : CodeTable := [
  0x484, 0x485, 0x487, 0x488, 0x2E43, 0x2E44, 0xA66F, 0xA670]

def extraGrantha : CodeTable := [
  0x951, 0x953, 0x964, 0x966, 0xBE6, 0xBF4, 0x1CD0, 0x1CD1, 0x1CD2, 0x1CD4, 0x1CF2, 0x1CF5, 0x1CF8,
  0x1CFA, 0x20F0, 0x20F1, 0x1133B, 0x1133C, 0x11FD0, 0x11FD2, 0x11FD3, 0x11FD4]

def extraGreek : CodeTable := [
  0x342, 0x343, 0x345, 0x346, 0x1DC0, 0x1DC2]

def extraGujarati : CodeTable := [
  0x951, 0x953, 0x964, 0x966, 0xA830, 0xA83A]

def extraGunjalaGondi : CodeTable := [
  0x964, 0x966]

def extraGurmukhi : CodeTable := [
  0x951, 0x953, 0x964, 0x966, 0xA830, 0xA83A]

def extraHan : CodeTable := [
  0x3001, 0x3004, 0x3006, 0x3007, 0x3008, 0x3012, 0x3013, 0x3020, 0x302A, 0x302E, 0x3030, 0x3031,
  0x3037, 0x3038, 0x303C, 0x3040, 0x30FB, 0x30FC, 0x3190, 0x31A0, 0x31C0, 0x31E4, 0x3220, 0x3248,
  0x3280, 0x32B1, 0x32C0, 0x32CC, 0x32FF, 0x3300, 0x3358, 0x3371, 0x337B, 0x3380, 0x33E0, 0x33FF,
  0xA700, 0xA708, 0xFE45, 0xFE47, 0xFF61, 0xFF66, 0x1D360, 0x1D372, 0x1F250, 0x1F252]

def extraHangul : CodeTable := [
  0x3001, 0x3004, 0x3008, 0x3012, 0x3013, 0x3020, 0x3030, 0x3031, 0x3037, 0x3038, 0x30FB, 0x30FC,
  0xFE45, 0xFE47, 0xFF61, 0xFF66]

def extraHanifiRohingya : CodeTable := [
  0x60C, 0x60D, 0x61B, 0x61C, 0x61F, 0x620, 0x640, 0x641, 0x6D4, 0x6D5]

def extraHanunoo : CodeTable := [
  0x1735, 0x1737]

def extraHiragana : CodeTable := [
  0x3001, 0x3004, 0x3008, 0x3012, 0x3013, 0x3020, 0x3030, 0x3036, 0x3037, 0x3038, 0x303C, 0x303E,
  0x3099, 0x309D, 0x30A0, 0x30A1, 0x30FB, 0x30FD, 0xFE45, 0xFE47, 0xFF61, 0xFF66, 0xFF70, 0xFF71,
  0xFF9E, 0xFFA0]

/-- Characters of script `inherited` that belong to named scripts. -/
def borrowedFromInherited : CodeTable := [
  0x342, 0x343, 0x345, 0x346, 0x363, 0x370, 0x485, 0x487, 0x64B, 0x656, 0x670, 0x671, 0x951, 0x953,
  0x1CD0, 0x1CD3, 0x1CD4, 0x1CE1, 0x1CE2, 0x1CE9, 0x1CED, 0x1CEE, 0x1CF4, 0x1CF5, 0x1CF8, 0x1CFA,
  0x1DC0, 0x1DC2, 0x1DF8, 0x1DF9, 0x1DFA, 0x1DFB, 0x20F0, 0x20F1, 0x302A, 0x302E, 0x3099, 0x309B,
  0x102E0, 0x102E1, 0x1133B, 0x1133C]

def extraJavanese : CodeTable := [
  0xA9CF, 0xA9D0]

def extraKaithi : CodeTable := [
  0x966, 0x970, 0xA830, 0xA83A]

def extraKannada : CodeTable := [
  0x951, 0x953, 0x964, 0x966, 0x1CD0, 0x1CD1, 0x1CD2, 0x1CD3, 0x1CDA, 0x1CDB, 0x1CF2, 0x1CF3,
  0x1CF4, 0x1CF5, 0xA830, 0xA836]

def extraKatakana : CodeTable := [
  0x3001, 0x3004, 0x3008, 0x3012, 0x3013, 0x3020, 0x3030, 0x3036, 0x3037, 0x3038, 0x303C, 0x303E,
  0x3099, 0x309D, 0x30A0, 0x30A1, 0x30FB, 0x30FD, 0xFE45, 0xFE47, 0xFF61, 0xFF66, 0xFF70, 0xFF71,
  0xFF9E, 0xFFA0]

def extraKayahLi : CodeTable := [
  0xA92E, 0xA92F]

def extraKhojki : CodeTable := [
  0xAE6, 0xAF0, 0xA830, 0xA83A]

def extraKhudawadi : CodeTable := [
  0x964, 0x966, 0xA830, 0xA83A]

def extraLatin : CodeTable := [
  0x363, 0x370, 0x485, 0x487, 0x951, 0x953, 0x10FB, 0x10FC, 0x202F, 0x2030, 0x20F0, 0x20F1, 0xA700,
  0xA708, 0xA92E, 0xA92F]

def extraLimbu : CodeTable := [
  0x965, 0x966]

def extraLinearA : CodeTable := [
  0x10107, 0x10134]

def extraLinearB : CodeTable := [
  0x10100, 0x10103, 0x10107, 0x10134, 0x10137, 0x10140]

def extraMahajani : CodeTable := [
  0x964, 0x970, 0xA830, 0xA83A]

def extraMalayalam : CodeTable := [
  0x951, 0x953, 0x964, 0x966, 0x1CDA, 0x1CDB, 0xA830, 0xA833]

def extraMandaic : CodeTable := [
  0x640, 0x641]

def extraManichaean : CodeTable := [
  0x640, 0x641]

def extraMasaramGondi : CodeTable := [
  0x964, 0x966]

def extraModi : CodeTable := [
  0xA830, 0xA83A]

def extraMongolian : CodeTable := [
  0x1802, 0x1804, 0x1805, 0x1806, 0x202F, 0x2030]

def extraMultani : CodeTable := [
  0xA66, 0xA70]

def extraMyanmar : CodeTable := [
  0xA92E, 0xA92F]

def extraNandinagari : CodeTable := [
  0x964, 0x966, 0xCE6, 0xCF0, 0x1CE9, 0x1CEA, 0x1CF2, 0x1CF3, 0x1CFA, 0x1CFB, 0xA830, 0xA836]

def extraNko : CodeTable := [
  0x60C, 0x60D, 0x61B, 0x61C, 0x61F, 0x620, 0xFD3E, 0xFD40]

def extraOldPermic : CodeTable := [
  0x483, 0x484]

def extraOldUyghur : CodeTable := [
  0x640, 0x641, 0x10AF2, 0x10AF3]

def extraOriya : CodeTable := [
  0x951, 0x953, 0x964, 0x966, 0x1CDA, 0x1CDB, 0x1CF2, 0x1CF3]

def extraPhagsPa : CodeTable := [
  0x1802, 0x1804, 0x1805, 0x1806]

def extraPsalterPahlavi : CodeTable := [
  0x640, 0x641]

def extraSharada : CodeTable := [
  0x951, 0x952, 0x1CD7, 0x1CD8, 0x1CD9, 0x1CDA, 0x1CDC, 0x1CDE, 0x1CE0, 0x1CE1]

def extraSinhala : CodeTable := [
  0x964, 0x966]

def extraSogdian : CodeTable := [
  0x640, 0x641]

def extraSylotiNagri : CodeTable := [
  0x964, 0x966, 0x9E6, 0x9F0]

def extraSyriac : CodeTable := [
  0x60C, 0x60D, 0x61B, 0x61D, 0x61F, 0x620, 0x640, 0x641, 0x64B, 0x656, 0x670, 0x671, 0x1DF8,
  0x1DF9, 0x1DFA, 0x1DFB]

def extraTagalog : CodeTable := [
  0x1735, 0x1737]

def extraTagbanwa : CodeTable := [
  0x1735, 0x1737]

def extraTaiLe : CodeTable := [
  0x1040, 0x104A]

def extraTakri : CodeTable := [
  0x964, 0x966, 0xA830, 0xA83A]

def extraTamil : CodeTable := [
  0x951, 0x953, 0x964, 0x966, 0x1CDA, 0x1CDB, 0xA8F3, 0xA8F4, 0x11301, 0x11302, 0x11303, 0x11304,
  0x1133B, 0x1133D]

def extraTelugu : CodeTable := [
  0x951, 0x953, 0x964, 0x966, 0x1CDA, 0x1CDB, 0x1CF2, 0x1CF3]

def extraThaana : CodeTable := [
  0x60C, 0x60D, 0x61B, 0x61D, 0x61F, 0x620, 0x660, 0x66A, 0xFDF2, 0xFDF3, 0xFDFD, 0xFDFE]

def extraTirhuta : CodeTable := [
  0x951, 0x953, 0x964, 0x966, 0x1CF2, 0x1CF3, 0xA830, 0xA83A]

def extraYezidi : CodeTable := [
  0x60C, 0x60D, 0x61B, 0x61C, 0x61F, 0x620, 0x660, 0x66A]

def extraYi : CodeTable := [
  0x3001, 0x3003, 0x3008, 0x3012, 0x3014, 0x301C, 0x30FB, 0x30FC, 0xFF61, 0xFF66]

/-- What script extensions add to a script. -/
def scriptExtras : List (String × CodeTable) := [
  ("adlam", extraAdlam),
  ("arabic", extraArabic),
  ("bengali", extraBengali),
  ("bopomofo", extraBopomofo),
  ("buginese", extraBuginese),
  ("buhid", extraBuhid),
  ("chakma", extraChakma),
  ("coptic", extraCoptic),
  ("cypriot", extraCypriot),
  ("cyprominoan", extraCyproMinoan),
  ("cyrillic", extraCyrillic),
  ("devanagari", extraDevanagari),
  ("dogra", extraDogra),
  ("duployan", extraDuployan),
  ("georgian", extraGeorgian),
  ("glagolitic", extraGlagolitic),
  ("grantha", extraGrantha),
  ("greek", extraGreek),
  ("gujarati", extraGujarati),
  ("gunjalagondi", extraGunjalaGondi),
  ("gurmukhi", extraGurmukhi),
  ("han", extraHan),
  ("hangul", extraHangul),
  ("hanifirohingya", extraHanifiRohingya),
  ("hanunoo", extraHanunoo),
  ("hiragana", extraHiragana),
  ("javanese", extraJavanese),
  ("kaithi", extraKaithi),
  ("kannada", extraKannada),
  ("katakana", extraKatakana),
  ("kayahli", extraKayahLi),
  ("khojki", extraKhojki),
  ("khudawadi", extraKhudawadi),
  ("latin", extraLatin),
  ("limbu", extraLimbu),
  ("lineara", extraLinearA),
  ("linearb", extraLinearB),
  ("mahajani", extraMahajani),
  ("malayalam", extraMalayalam),
  ("mandaic", extraMandaic),
  ("manichaean", extraManichaean),
  ("masaramgondi", extraMasaramGondi),
  ("modi", extraModi),
  ("mongolian", extraMongolian),
  ("multani", extraMultani),
  ("myanmar", extraMyanmar),
  ("nandinagari", extraNandinagari),
  ("nko", extraNko),
  ("oldpermic", extraOldPermic),
  ("olduyghur", extraOldUyghur),
  ("oriya", extraOriya),
  ("phagspa", extraPhagsPa),
  ("psalterpahlavi", extraPsalterPahlavi),
  ("sharada", extraSharada),
  ("sinhala", extraSinhala),
  ("sogdian", extraSogdian),
  ("sylotinagri", extraSylotiNagri),
  ("syriac", extraSyriac),
  ("tagalog", extraTagalog),
  ("tagbanwa", extraTagbanwa),
  ("taile", extraTaiLe),
  ("takri", extraTakri),
  ("tamil", extraTamil),
  ("telugu", extraTelugu),
  ("thaana", extraThaana),
  ("tirhuta", extraTirhuta),
  ("yezidi", extraYezidi),
  ("yi", extraYi)]

/-- What script extensions take from a script. -/
def scriptBorrowed : List (String × CodeTable) := [
  ("common", borrowedFromCommon),
  ("inherited", borrowedFromInherited)]

end JsonSchema.Unicode
