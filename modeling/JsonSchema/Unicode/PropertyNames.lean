import JsonSchema.Unicode.Properties
import JsonSchema.Unicode.ScriptExtensions
import JsonSchema.Unicode.Scripts

/-!
# Properties by name

Names are matched loosely: case, blanks, underscores and hyphens do not count, nor does `is` in front.
A bare name is a binary property, a general category or a script, in this order; a name with a value
asks for a category, a script or a script extension.
-/

set_option autoImplicit false

namespace JsonSchema.Unicode

open CharSet

/-- The form under which a name is looked up.  Only `isc` keeps its `is`. -/
def looseName (name : List Char) : String :=
  let strip (cs : List Char) : List Char :=
    (cs.filter fun c => c ≠ ' ' ∧ c ≠ '_' ∧ c ≠ '-' ∧ c.toNat < 0x80).map Char.toLower
  match name with
  | 'i' :: 's' :: rest | 'I' :: 's' :: rest | 'i' :: 'S' :: rest | 'I' :: 'S' :: rest =>
    match strip rest with
    | ['c'] => "isc"
    | cs => String.ofList cs
  | cs => String.ofList (strip cs)

/-- The first entry one of whose names is the given one. -/
def findNamed {α : Type} (entries : List (List String × α)) (name : String) : Option α :=
  (entries.find? (·.1.contains name)).map (·.2)

def generalCategories : List (List String × CharSet) := [
  (["any"], full),
  (["assigned"], assigned),
  (["ascii"], ascii),
  (["lu", "uppercaseletter"], table uppercaseLetter),
  (["ll", "lowercaseletter"], table lowercaseLetter),
  (["lt", "titlecaseletter"], table titlecaseLetter),
  (["lc", "casedletter"], casedLetter),
  (["lm", "modifierletter"], table modifierLetter),
  (["lo", "otherletter"], table otherLetter),
  (["l", "letter"], letter),
  (["mn", "nonspacingmark"], table nonspacingMark),
  (["mc", "spacingmark"], table spacingMark),
  (["me", "enclosingmark"], table enclosingMark),
  (["m", "mark", "combiningmark"], mark),
  (["nd", "decimalnumber", "digit"], table decimalNumber),
  (["nl", "letternumber"], table letterNumber),
  (["no", "othernumber"], table otherNumber),
  (["n", "number"], number),
  (["pc", "connectorpunctuation"], table connectorPunctuation),
  (["pd", "dashpunctuation"], table dashPunctuation),
  (["ps", "openpunctuation"], table openPunctuation),
  (["pe", "closepunctuation"], table closePunctuation),
  (["pi", "initialpunctuation"], table initialPunctuation),
  (["pf", "finalpunctuation"], table finalPunctuation),
  (["po", "otherpunctuation"], table otherPunctuation),
  (["p", "punctuation", "punct"], punctuation),
  (["sm", "mathsymbol"], table mathSymbol),
  (["sc", "currencysymbol"], table currencySymbol),
  (["sk", "modifiersymbol"], table modifierSymbol),
  (["so", "othersymbol"], table otherSymbol),
  (["s", "symbol"], symbol),
  (["zs", "spaceseparator"], table spaceSeparator),
  (["zl", "lineseparator"], table lineSeparator),
  (["zp", "paragraphseparator"], table paragraphSeparator),
  (["z", "separator"], separator),
  (["cc", "control", "cntrl"], table control),
  (["cf", "format"], table format),
  (["co", "privateuse"], table privateUse),
  (["cn", "unassigned"], unassigned),
  (["c", "other"], other)]

def binaryProperties : List (List String × CharSet) := [
  (["ahex", "asciihexdigit"], table asciiHexDigit),
  (["alpha", "alphabetic"], alphabetic),
  (["bidic", "bidicontrol"], table bidiControl),
  (["bidim", "bidimirrored"], table bidiMirrored),
  (["ci", "caseignorable"], caseIgnorable),
  (["cased"], cased),
  (["cwcf", "changeswhencasefolded"], changesWhenCasefolded),
  (["cwcm", "changeswhencasemapped"], changesWhenCasemapped),
  (["cwl", "changeswhenlowercased"], changesWhenLowercased),
  (["cwt", "changeswhentitlecased"], changesWhenTitlecased),
  (["cwu", "changeswhenuppercased"], changesWhenUppercased),
  (["dash"], table dash),
  (["di", "defaultignorablecodepoint"], table defaultIgnorableCodePoint),
  (["dep", "deprecated"], table deprecated),
  (["dia", "diacritic"], table diacritic),
  (["emoji"], table emoji),
  (["ecomp", "emojicomponent"], table emojiComponent),
  (["emod", "emojimodifier"], table emojiModifier),
  (["ebase", "emojimodifierbase"], table emojiModifierBase),
  (["epres", "emojipresentation"], table emojiPresentation),
  (["extpict", "extendedpictographic"], table extendedPictographic),
  (["ext", "extender"], table extender),
  (["grbase", "graphemebase"], graphemeBase),
  (["grext", "graphemeextend"], graphemeExtend),
  (["hex", "hexdigit"], table hexDigit),
  (["idsb", "idsbinaryoperator"], table idsBinaryOperator),
  (["idst", "idstrinaryoperator"], table idsTrinaryOperator),
  (["idc", "idcontinue"], idContinue),
  (["ids", "idstart"], idStart),
  (["ideo", "ideographic"], table ideographic),
  (["joinc", "joincontrol"], table joinControl),
  (["loe", "logicalorderexception"], table logicalOrderException),
  (["lower", "lowercase"], lowercase),
  (["math"], math),
  (["nchar", "noncharactercodepoint"], table noncharacterCodePoint),
  (["oalpha", "otheralphabetic"], table otherAlphabetic),
  (["odi", "otherdefaultignorablecodepoint"],
    diff (table defaultIgnorableCodePoint) (union (table format) (table variationSelector))),
  (["ogrext", "othergraphemeextend"], table otherGraphemeExtend),
  (["oidc", "otheridcontinue"], table otherIdContinue),
  (["oids", "otheridstart"], table otherIdStart),
  (["olower", "otherlowercase"], table otherLowercase),
  (["omath", "othermath"], table otherMath),
  (["oupper", "otheruppercase"], table otherUppercase),
  (["patsyn", "patternsyntax"], table patternSyntax),
  (["patws", "patternwhitespace"], table patternWhiteSpace),
  (["pcm", "prependedconcatenationmark"], table prependedConcatenationMark),
  (["qmark", "quotationmark"], table quotationMark),
  (["radical"], table radical),
  (["ri", "regionalindicator"], table regionalIndicator),
  (["sterm", "sentenceterminal"], table sentenceTerminal),
  (["sd", "softdotted"], table softDotted),
  (["term", "terminalpunctuation"], table terminalPunctuation),
  (["uideo", "unifiedideograph"], table unifiedIdeograph),
  (["upper", "uppercase"], uppercase),
  (["vs", "variationselector"], table variationSelector),
  (["wspace", "whitespace", "space"], table whiteSpace),
  (["xidc", "xidcontinue"], xidContinue),
  (["xids", "xidstart"], xidStart)]

/-- The characters of a script. -/
def script? (name : String) : Option CharSet := (findNamed scripts name).map table

/-- The characters that a script uses, its own and those it shares with other scripts. -/
def scriptExtension? (name : String) : Option CharSet := do
  let (names, own) ← scripts.find? (·.1.contains name)
  let extra := (scriptExtras.find? fun e => names.contains e.1).map (·.2)
  let borrowed := (scriptBorrowed.find? fun e => names.contains e.1).map (·.2)
  return diff (union (table own) (table (extra.getD []))) (table (borrowed.getD []))

/-- The property that a bare name stands for. -/
def propertyNamed? (name : List Char) : Option CharSet :=
  let name := looseName name
  findNamed binaryProperties name <|> findNamed generalCategories name <|> script? name

/-- The property that a name with a value stands for. -/
def propertyValue? (name value : List Char) : Option CharSet :=
  let value := looseName value
  let name := looseName name
  if name == "gc" || name == "generalcategory" then findNamed generalCategories value
  else if name == "sc" || name == "script" then script? value
  else if name == "scx" || name == "scriptextensions" then scriptExtension? value
  else none

end JsonSchema.Unicode
