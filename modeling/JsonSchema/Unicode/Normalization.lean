import JsonSchema.Unicode.CombiningClasses
import JsonSchema.Unicode.Decompositions

/-!
# Composed text

`normalize` gives the composed normal form of a text (NFC): characters are taken apart, marks are put in the
order of their classes, and each character is joined with the marks after it where a composite exists.
-/

set_option autoImplicit false

namespace JsonSchema.Unicode

/-- The letters of a Korean syllable: an initial, a vowel and, in most, a final. -/
def lettersOfSyllable? (c : Nat) : Option (List Nat) :=
  if 0xAC00 ≤ c ∧ c < 0xD7A4 then
    let i := c - 0xAC00
    let opened := [0x1100 + i / 588, 0x1161 + i / 28 % 21]
    some (if i % 28 = 0 then opened else opened ++ [0x11A7 + i % 28])
  else none

/-- The Korean syllable of an initial and a vowel. -/
def openSyllable? (initial vowel : Nat) : Option Nat :=
  if 0x1100 ≤ initial ∧ initial < 0x1113 ∧ 0x1161 ≤ vowel ∧ vowel < 0x1176 then
    some (0xAC00 + (initial - 0x1100) * 588 + (vowel - 0x1161) * 28)
  else none

/-- The Korean syllable of an initial, a vowel and perhaps a final. -/
def syllable? : List Nat → Option Nat
  | [initial, vowel] => openSyllable? initial vowel
  | [initial, vowel, final] =>
    if 0x11A8 ≤ final ∧ final < 0x11C3 then
      (openSyllable? initial vowel).map (· + (final - 0x11A7))
    else none
  | _ => none

/-- A character's parts; most are their own. -/
def parts (c : Nat) : List Nat :=
  (lettersOfSyllable? c <|> CodeBlock.image? composites c <|> CodeBlock.image? decomposed c).getD [c]

/-- The composite of a character and a mark. -/
def join? (c mark : Nat) : Option Nat :=
  let both := parts c ++ [mark]
  syllable? both <|> CodeBlock.source? composites both

/-- Puts a character before ordered ones, behind the marks that go first. -/
def placeMark (c : Nat) : List Nat → List Nat
  | [] => [c]
  | d :: rest =>
    if combiningClass d ≠ 0 ∧ combiningClass d < combiningClass c then d :: placeMark c rest
    else c :: d :: rest

/-- Puts the marks after each character in the order of their classes. -/
def orderMarks : List Nat → List Nat
  | [] => []
  | c :: rest => placeMark c (orderMarks rest)

/-- Joins a character with those after it.  `kept` are the marks between that did not join, last first; a
    mark joins only if its class is greater than theirs. -/
def joinMarks (c : Nat) (kept : List Nat) : List Nat → List Nat
  | [] => c :: kept.reverse
  | d :: rest =>
    let reaches := kept.head?.all fun mark => combiningClass mark < combiningClass d
    match if reaches then join? c d else none with
    | some joined => joinMarks joined kept rest
    | none =>
      if combiningClass d = 0 then c :: kept.reverse ++ joinMarks d [] rest
      else joinMarks c (d :: kept) rest

/-- Joins the characters of a text; marks at its very beginning stay. -/
def joinText : List Nat → List Nat
  | [] => []
  | c :: rest => if combiningClass c = 0 then joinMarks c [] rest else c :: joinText rest

def normalize (text : List Nat) : List Nat := joinText (orderMarks (text.flatMap parts))

end JsonSchema.Unicode
