import JsonSchema.Unicode.Properties

/-!
# Directions of writing

The direction that a character has by itself, and the rule for domain labels beside text that runs from right
to left (the Bidi rule): a label keeps one direction from its first to its last character.  The tables are
those of Unicode 15.0 without characters that no domain holds.
-/

set_option autoImplicit false

namespace JsonSchema.Unicode

/-- Letters and signs of scripts that run from right to left. -/
def rightToLeft : CodeTable := [
  0x5BE, 0x5BF, 0x5C0, 0x5C1, 0x5C3, 0x5C4, 0x5C6, 0x5C7, 0x5D0, 0x5EB, 0x5EF, 0x5F5, 0x608, 0x609,
  0x60B, 0x60C, 0x60D, 0x60E, 0x61B, 0x61C, 0x61D, 0x64B, 0x66D, 0x670, 0x671, 0x675, 0x679, 0x6D6,
  0x6E5, 0x6E7, 0x6EE, 0x6F0, 0x6FA, 0x70E, 0x710, 0x711, 0x712, 0x730, 0x74D, 0x7A6, 0x7B1, 0x7B2,
  0x7C0, 0x7EB, 0x7F4, 0x7F6, 0x7FA, 0x7FB, 0x7FE, 0x816, 0x81A, 0x81B, 0x824, 0x825, 0x828, 0x829,
  0x830, 0x83F, 0x840, 0x859, 0x85E, 0x85F, 0x860, 0x86B, 0x870, 0x88F, 0x8A0, 0x8CA, 0xFBB2,
  0xFBC3, 0xFE73, 0xFE74, 0x10800, 0x10806, 0x10808, 0x10809, 0x1080A, 0x10836, 0x10837, 0x10839,
  0x1083C, 0x1083D, 0x1083F, 0x10856, 0x10857, 0x1089F, 0x108A7, 0x108B0, 0x108E0, 0x108F3, 0x108F4,
  0x108F6, 0x108FB, 0x1091C, 0x10920, 0x1093A, 0x1093F, 0x10940, 0x10980, 0x109B8, 0x109BC, 0x109D0,
  0x109D2, 0x10A01, 0x10A10, 0x10A14, 0x10A15, 0x10A18, 0x10A19, 0x10A36, 0x10A40, 0x10A49, 0x10A50,
  0x10A59, 0x10A60, 0x10AA0, 0x10AC0, 0x10AE5, 0x10AEB, 0x10AF7, 0x10B00, 0x10B36, 0x10B40, 0x10B56,
  0x10B58, 0x10B73, 0x10B78, 0x10B92, 0x10B99, 0x10B9D, 0x10BA9, 0x10BB0, 0x10C00, 0x10C49, 0x10CC0,
  0x10CF3, 0x10CFA, 0x10D24, 0x10E80, 0x10EAA, 0x10EAD, 0x10EAE, 0x10EB0, 0x10EB2, 0x10F00, 0x10F28,
  0x10F30, 0x10F46, 0x10F51, 0x10F5A, 0x10F70, 0x10F82, 0x10F86, 0x10F8A, 0x10FB0, 0x10FCC, 0x10FE0,
  0x10FF7, 0x1E800, 0x1E8C5, 0x1E8C7, 0x1E8D0, 0x1E922, 0x1E944, 0x1E94B, 0x1E94C, 0x1E950, 0x1E95A,
  0x1E95E, 0x1E960, 0x1EC71, 0x1ECB5, 0x1ED01, 0x1ED3E]

/-- Digits and signs of numbers that belong to such scripts. -/
def arabicDigit : CodeTable := [
  0x660, 0x66A, 0x66B, 0x66D, 0x10D30, 0x10D3A, 0x10E60, 0x10E7F]

/-- Digits of scripts of both directions. -/
def europeanDigit : CodeTable := [
  0x30, 0x3A, 0x6F0, 0x6FA, 0x102E1, 0x102FC]

/-- Characters that take their direction from those around them. -/
def undirected : CodeTable := [
  0x21, 0x30, 0x3A, 0x41, 0x5B, 0x61, 0x7B, 0x7F, 0xA1, 0xA8, 0xA9, 0xAA, 0xAB, 0xAD, 0xAE, 0xAF,
  0xB0, 0xB2, 0xB6, 0xB8, 0xBB, 0xBC, 0xBF, 0xC0, 0xD7, 0xD8, 0xF7, 0xF8, 0x2B9, 0x2BB, 0x2C2,
  0x2D0, 0x2D2, 0x2D8, 0x2DE, 0x2E0, 0x2E5, 0x2EE, 0x2EF, 0x300, 0x375, 0x376, 0x3F6, 0x3F7, 0x58A,
  0x58B, 0x58D, 0x590, 0x606, 0x608, 0x609, 0x60B, 0x60C, 0x60D, 0x60E, 0x610, 0x66A, 0x66B, 0x6DE,
  0x6DF, 0x6E9, 0x6EA, 0x7F6, 0x7FA, 0x9F2, 0x9F4, 0x9FB, 0x9FC, 0xAF1, 0xAF2, 0xBF3, 0xBFB, 0xC78,
  0xC7F, 0xE3F, 0xE40, 0xF3A, 0xF3E, 0x1390, 0x139A, 0x1400, 0x1401, 0x169B, 0x169D, 0x17DB, 0x17DC,
  0x17F0, 0x17FA, 0x1800, 0x180B, 0x1940, 0x1941, 0x1944, 0x1946, 0x19DE, 0x1A00, 0x200C, 0x200E,
  0x2010, 0x2011, 0x2012, 0x2017, 0x2018, 0x2024, 0x2027, 0x2028, 0x2030, 0x2033, 0x2035, 0x2036,
  0x2038, 0x203C, 0x203D, 0x203E, 0x203F, 0x2047, 0x204A, 0x2057, 0x2058, 0x205F, 0x20A0, 0x20A8,
  0x20A9, 0x20C1, 0x2104, 0x2105, 0x2108, 0x2109, 0x2114, 0x2115, 0x2117, 0x2119, 0x211E, 0x2120,
  0x2123, 0x2124, 0x2125, 0x2126, 0x2127, 0x2128, 0x2129, 0x212A, 0x212E, 0x212F, 0x213A, 0x213B,
  0x2141, 0x2145, 0x214A, 0x214E, 0x218A, 0x218C, 0x2190, 0x222C, 0x222E, 0x222F, 0x2231, 0x2329,
  0x232B, 0x2336, 0x237B, 0x2395, 0x2396, 0x2427, 0x2440, 0x244B, 0x24EB, 0x26AC, 0x26AD, 0x2800,
  0x2900, 0x2A0C, 0x2A0D, 0x2A74, 0x2A77, 0x2ADC, 0x2ADD, 0x2B74, 0x2B76, 0x2B96, 0x2B97, 0x2C00,
  0x2CE5, 0x2CEB, 0x2CF9, 0x2D00, 0x2E00, 0x2E5E, 0x2E80, 0x2E9A, 0x2E9B, 0x2E9F, 0x2EA0, 0x2EF3,
  0x3001, 0x3002, 0x3003, 0x3005, 0x3008, 0x3021, 0x3030, 0x3031, 0x3037, 0x3038, 0x303D, 0x3040,
  0x30A0, 0x30A1, 0x30FB, 0x30FC, 0x31C0, 0x31E4, 0x4DC0, 0x4E00, 0xA490, 0xA4C7, 0xA60D, 0xA610,
  0xA673, 0xA674, 0xA67E, 0xA680, 0xA700, 0xA722, 0xA788, 0xA789, 0xA828, 0xA82C, 0xA838, 0xA83A,
  0xA874, 0xA878, 0xAB6A, 0xAB6C, 0xFD3E, 0xFD50, 0xFDCF, 0xFDD0, 0xFDFD, 0xFE00, 0xFE45, 0xFE47,
  0x10101, 0x10102, 0x10140, 0x1018D, 0x10190, 0x1019D, 0x101A0, 0x101A1, 0x1091F, 0x10920, 0x10B39,
  0x10B40, 0x11052, 0x11066, 0x11660, 0x1166D, 0x11FD5, 0x11FF2, 0x16FE2, 0x16FE3, 0x1D1E9, 0x1D1EB,
  0x1D200, 0x1D242, 0x1D245, 0x1D246, 0x1D300, 0x1D357, 0x1E2FF, 0x1E300, 0x1EEF0, 0x1EEF2, 0x1F000,
  0x1F02C, 0x1F030, 0x1F094, 0x1F0A0, 0x1F0AF, 0x1F0B1, 0x1F0C0, 0x1F0C1, 0x1F0D0, 0x1F0D1, 0x1F0F6,
  0x1F10B, 0x1F110, 0x1F12F, 0x1F130, 0x1F16D, 0x1F170, 0x1F1AD, 0x1F1AE, 0x1F260, 0x1F266, 0x1F300,
  0x1F6D8, 0x1F6DC, 0x1F6ED, 0x1F6F0, 0x1F6FD, 0x1F700, 0x1F777, 0x1F77B, 0x1F7DA, 0x1F7E0, 0x1F7EC,
  0x1F7F0, 0x1F7F1, 0x1F800, 0x1F80C, 0x1F810, 0x1F848, 0x1F850, 0x1F85A, 0x1F860, 0x1F888, 0x1F890,
  0x1F8AE, 0x1F8B0, 0x1F8B2, 0x1F900, 0x1FA54, 0x1FA60, 0x1FA6E, 0x1FA70, 0x1FA7D, 0x1FA80, 0x1FA89,
  0x1FA90, 0x1FABE, 0x1FABF, 0x1FAC6, 0x1FACE, 0x1FADC, 0x1FAE0, 0x1FAE9, 0x1FAF0, 0x1FAF9, 0x1FB00,
  0x1FB93, 0x1FB94, 0x1FBCB]

/-- How a character takes part in the direction of its text. -/
inductive Direction where
  | leftToRight
  | rightToLeft
  | arabicNumber
  | europeanNumber
  | neutral
  /-- A mark, which has the direction of what it stands on. -/
  | mark
  deriving DecidableEq

/-- Marks that run from left to right by themselves. -/
def directedMark : CodeTable := [0xCBF, 0xCC0, 0xCC6, 0xCC7, 0x11A07, 0x11A09, 0x11C3F, 0x11C40]

def direction (c : Nat) : Direction :=
  if rightToLeft.contains c then .rightToLeft
  else if arabicDigit.contains c then .arabicNumber
  else if europeanDigit.contains c then .europeanNumber
  else if undirected.contains c then .neutral
  else if nonspacingMark.contains c || enclosingMark.contains c then
    if directedMark.contains c then .leftToRight else .mark
  else .leftToRight

namespace Direction

/-- Whether a character makes the rule apply to all labels of its domain. -/
def isRightward (d : Direction) : Bool := d = .rightToLeft || d = .arabicNumber

/-- Whether the directions of a label's characters agree. -/
def agree : List Direction → Bool
  | [] => true
  | first :: rest =>
    let ending := ((first :: rest).reverse.dropWhile (· = .mark)).head?
    match first with
    | .leftToRight =>
      rest.all (fun d => !d.isRightward) && (ending = some .leftToRight || ending = some .europeanNumber)
    | .rightToLeft =>
      rest.all (· ≠ .leftToRight) && (ending != some .neutral) &&
        !(rest.contains .europeanNumber && rest.contains .arabicNumber)
    | _ => false

end Direction

end JsonSchema.Unicode
