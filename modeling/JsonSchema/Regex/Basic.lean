import JsonSchema.Unicode.Properties

/-!
# Regular expressions

A regular expression describes stretches of a text.  Assertions take no characters and look at the
characters on either side of a position.
-/

set_option autoImplicit false

namespace JsonSchema

open Unicode

/-- What an assertion asks of a position. -/
inductive Assertion where
  | start
  | finish
  /-- The start of the text or a line feed before. -/
  | lineStart
  /-- The end of the text or a line feed behind. -/
  | lineFinish
  /-- As `lineStart`, where a carriage return ends a line too and the pair counts as one. -/
  | lineStartCrlf
  | lineFinishCrlf
  | wordBoundary (word : CharSet)
  | notWordBoundary (word : CharSet)
  | wordStart (word : CharSet)
  | wordFinish (word : CharSet)
  /-- No word character before. -/
  | wordStartHalf (word : CharSet)
  /-- No word character behind. -/
  | wordFinishHalf (word : CharSet)

inductive Regex where
  | empty
  | chars (set : CharSet)
  | look (a : Assertion)
  | seq (a b : Regex)
  | alt (a b : Regex)
  /-- At least `least` and at most `most` stretches of `body`, without limit if there is no `most`. -/
  | «repeat» (body : Regex) (least : Nat) (most : Option Nat)

namespace Assertion

def isWord (word : CharSet) (c : Option Char) : Bool := c.any fun c => word.contains c.toNat

/-- Whether the assertion holds between two characters, either of which may be missing. -/
def holds (a : Assertion) (before after : Option Char) : Bool :=
  match a with
  | start => before.isNone
  | finish => after.isNone
  | lineStart => before.isNone || before == some '\n'
  | lineFinish => after.isNone || after == some '\n'
  | lineStartCrlf =>
    before.isNone || before == some '\n' || (before == some '\r' && after != some '\n')
  | lineFinishCrlf =>
    after.isNone || after == some '\r' || (after == some '\n' && before != some '\r')
  | wordBoundary word => isWord word before != isWord word after
  | notWordBoundary word => isWord word before == isWord word after
  | wordStart word => !isWord word before && isWord word after
  | wordFinish word => isWord word before && !isWord word after
  | wordStartHalf word => !isWord word before
  | wordFinishHalf word => !isWord word after

end Assertion

end JsonSchema
