import JsonSchema.Unicode.CaseFolding
import JsonSchema.Unicode.CodeTable

/-!
# Sets of characters

A set is described by how it is made, from ranges and tables by the operations of set algebra and
closure under case variants; `CharSet.contains` reads the description.
-/

set_option autoImplicit false

namespace JsonSchema

open Unicode

inductive CharSet where
  | range (low high : Nat)
  | table (t : CodeTable)
  | union (a b : CharSet)
  | inter (a b : CharSet)
  | diff (a b : CharSet)
  | compl (a : CharSet)
  /-- Every character with a case variant in the set. -/
  | foldCase (a : CharSet)

namespace CharSet

def contains : CharSet → Nat → Bool
  | range low high, c => decide (low ≤ c) && decide (c ≤ high)
  | table t, c => t.contains c
  | union a b, c => a.contains c || b.contains c
  | inter a b, c => a.contains c && b.contains c
  | diff a b, c => a.contains c && !b.contains c
  | compl a, c => !a.contains c
  | foldCase a, c => (caseVariants c).any a.contains

/-- The set with no members. -/
def empty : CharSet := range 1 0

/-- The set of all characters. -/
def full : CharSet := range 0 0x10FFFF

def single (c : Char) : CharSet := range c.toNat c.toNat

def ascii : CharSet := range 0 0x7F

/-- Members of exactly one of two sets. -/
def symmDiff (a b : CharSet) : CharSet := union (diff a b) (diff b a)

def unionAll (sets : List CharSet) : CharSet := sets.foldl union empty

def ofChars (s : String) : CharSet := unionAll (s.toList.map single)

end CharSet

end JsonSchema
