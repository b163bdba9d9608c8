import JsonSchema.Unicode.BinaryProperties
import JsonSchema.Unicode.Categories
import JsonSchema.Unicode.CharSet

/-!
# Character classes

Unions of general categories, the derived properties as Unicode derives them, and the three classes of
regular expressions: digits, blanks and word characters.
-/

set_option autoImplicit false

namespace JsonSchema.Unicode

open CharSet

/-! ## Unions of categories -/

def casedLetter : CharSet := unionAll [table uppercaseLetter, table lowercaseLetter, table titlecaseLetter]

def letter : CharSet := unionAll [casedLetter, table modifierLetter, table otherLetter]

def mark : CharSet := unionAll [table nonspacingMark, table spacingMark, table enclosingMark]

def number : CharSet := unionAll [table decimalNumber, table letterNumber, table otherNumber]

def punctuation : CharSet :=
  unionAll [table connectorPunctuation, table dashPunctuation, table openPunctuation,
    table closePunctuation, table initialPunctuation, table finalPunctuation, table otherPunctuation]

def symbol : CharSet :=
  unionAll [table mathSymbol, table currencySymbol, table modifierSymbol, table otherSymbol]

def separator : CharSet :=
  unionAll [table spaceSeparator, table lineSeparator, table paragraphSeparator]

def assigned : CharSet :=
  unionAll [letter, mark, number, punctuation, symbol, separator, table control, table format,
    table privateUse, table surrogate]

def unassigned : CharSet := compl assigned

def other : CharSet :=
  unionAll [table control, table format, table privateUse, table surrogate, unassigned]

/-! ## Derived properties -/

def alphabetic : CharSet := unionAll [letter, table letterNumber, table otherAlphabetic]

def lowercase : CharSet := union (table lowercaseLetter) (table otherLowercase)

def uppercase : CharSet := union (table uppercaseLetter) (table otherUppercase)

def cased : CharSet := unionAll [lowercase, uppercase, table titlecaseLetter]

def caseIgnorable : CharSet :=
  unionAll [table nonspacingMark, table enclosingMark, table format, table modifierLetter,
    table modifierSymbol, table otherCaseIgnorable]

def math : CharSet := union (table mathSymbol) (table otherMath)

def graphemeExtend : CharSet :=
  unionAll [table nonspacingMark, table enclosingMark, table otherGraphemeExtend]

def graphemeBase : CharSet :=
  compl (unionAll [table control, table format, table privateUse, table surrogate, unassigned,
    table lineSeparator, table paragraphSeparator, graphemeExtend])

def idStart : CharSet :=
  diff (unionAll [letter, table letterNumber, table otherIdStart]) (table patternSyntax)

def idContinue : CharSet :=
  diff (unionAll [idStart, table nonspacingMark, table spacingMark, table decimalNumber,
    table connectorPunctuation, table otherIdContinue]) (table patternSyntax)

def xidStart : CharSet := diff idStart (table notXidStart)

def xidContinue : CharSet := diff idContinue (table notXidContinue)

/-- Characters that simple folding changes. -/
def foldSources : CharSet :=
  foldRuns.foldl (fun set r =>
    union set (if r.step = 1 then range r.low r.high
      else unionAll ((List.range ((r.high - r.low) / r.step + 1)).map fun i =>
        range (r.low + i * r.step) (r.low + i * r.step)))) CharSet.empty

/-- Characters that simple folding gives for another one. -/
def foldTargets : CharSet :=
  foldRuns.foldl (fun set r =>
    union set (if r.step = 1 then range r.target (r.target + (r.high - r.low))
      else unionAll ((List.range ((r.high - r.low) / r.step + 1)).map fun i =>
        range (r.target + i * r.step) (r.target + i * r.step)))) CharSet.empty

def changesWhenLowercased : CharSet :=
  union (diff foldSources (table changingLowercasedExcept)) (table changingLowercasedExtra)

def changesWhenCasefolded : CharSet :=
  union (diff foldSources (table changingCasefoldedExcept)) (table changingCasefoldedExtra)

def changesWhenUppercased : CharSet :=
  union (diff foldTargets (table changingUppercasedExcept)) (table changingUppercasedExtra)

def changesWhenTitlecased : CharSet :=
  union (diff foldTargets (table changingTitlecasedExcept)) (table changingTitlecasedExtra)

def changesWhenCasemapped : CharSet :=
  unionAll [changesWhenLowercased, changesWhenUppercased, changesWhenTitlecased]

/-! ## Classes of regular expressions -/

/-- The digits of all scripts. -/
def digits : CharSet := table decimalNumber

/-- Blank characters. -/
def blanks : CharSet := table whiteSpace

/-- Characters of words: alphabetic ones, marks, digits, connecting punctuation and joiners. -/
def wordChars : CharSet :=
  unionAll [alphabetic, mark, digits, table connectorPunctuation, table joinControl]

end JsonSchema.Unicode
