import JsonSchema.Unicode.Direction
import JsonSchema.Unicode.DomainCharacters
import JsonSchema.Unicode.Joiner
import JsonSchema.Unicode.Normalization
import JsonSchema.Uri.Punycode

/-!
# Domain names

`Domain.toAscii?` gives the ASCII form of a domain.  Characters are replaced by those that stand for them,
the text is composed, and each label is written in Punycode unless it is ASCII.  A label that is given in
Punycode has to be one that would be written so.
-/

set_option autoImplicit false

namespace JsonSchema.Domain

open Unicode

/-- ASCII characters that no domain holds. -/
def isForbidden (c : Nat) : Bool :=
  c ≤ 0x20 || c == 0x7F || ("#/:<>?@[\\]^|%".toList.map Char.toNat).contains c

/-- Whether a domain may hold a character or what stands for it. -/
def isAllowed (c : Nat) : Bool :=
  c < 0x80 ||
    !(unassigned.contains c || privateUse.contains c || surrogate.contains c || domainExcluded.contains c)

/-- What stands for a character in a domain before the text is composed. -/
def image (c : Nat) : List Nat :=
  if domainIgnored.contains c then []
  else
    match CodeRun.image? domainRuns c with
    | some t => [t]
    | none => (CodeBlock.image? domainBlocks c).getD [simpleFold c]

/-- The text that stands for a domain. -/
def normalForm? (text : List Nat) : Option (List Nat) :=
  if text.all isAllowed then
    let composed := normalize (text.flatMap image)
    if composed.any isForbidden then none else some composed
  else none

/-- The labels of a domain, which points keep apart. -/
def labels (text : List Nat) : List (List Nat) := text.splitOn '.'.toNat

/-- Whether a label may stand as it is: no mark begins it, and each joiner has its reason. -/
def isWellFormed (label : List Nat) : Bool := !label.head?.any mark.contains && joinersFit [] label

/-- What begins a label in Punycode. -/
def codedPrefix : List Nat := "xn--".toList.map Char.toNat

/-- A label as text.  One in Punycode is refused unless what it stands for has that form only. -/
def readLabel? (label : List Nat) : Option (List Nat) :=
  if codedPrefix.isPrefixOf label then do
    let text ← Punycode.decode? ((label.drop codedPrefix.length).map Char.ofNat)
    let text := text.map Char.toNat
    if text.any (0x80 ≤ ·) && !text.contains '.'.toNat && normalForm? text == some text && isWellFormed text then
      some text
    else none
  else if label.all (· < 0x80) || isWellFormed label then some label
  else none

/-- The ASCII form of a label. -/
def writeLabel (label : List Nat) : List Nat :=
  if label.all (· < 0x80) then label
  else codedPrefix ++ (Punycode.encode (label.map Char.ofNat)).map Char.toNat

/-- Whether all labels keep one direction, if one of them runs from right to left. -/
def directionsAgree (labels : List (List Nat)) : Bool :=
  let directions := labels.map (·.map direction)
  !directions.any (·.any Direction.isRightward) || directions.all Direction.agree

/-- The ASCII form of the domain that the bytes spell, if they spell one. -/
def toAscii? (bytes : List UInt8) : Option (List Char) := do
  let text ← String.fromUTF8? ⟨bytes.toArray⟩
  let text ← normalForm? (text.toList.map Char.toNat)
  let labels ← (labels text).mapM readLabel?
  if directionsAgree labels then
    some ((List.intercalate ['.'.toNat] (labels.map writeLabel)).map Char.ofNat)
  else none

end JsonSchema.Domain
