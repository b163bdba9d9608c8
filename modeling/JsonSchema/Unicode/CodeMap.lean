/-!
# Maps of code points

A map from code points to other ones is written as a list of runs, where sources and images advance by the
same step, and of blocks, which list the images of consecutive sources.
-/

set_option autoImplicit false

namespace JsonSchema

/-- The map of `low`, `low + step` and so on up to `high` to `target`, `target + step` and so on. -/
structure CodeRun where
  low : Nat
  high : Nat
  step : Nat
  target : Nat

namespace CodeRun

/-- Whether the run maps the code point. -/
def covers (r : CodeRun) (c : Nat) : Bool :=
  decide (r.low ≤ c) && decide (c ≤ r.high) && (c - r.low) % r.step == 0

/-- The image of a code point that the run covers. -/
def apply (r : CodeRun) (c : Nat) : Nat := r.target + (c - r.low)

/-- The code point that the run sends to `t`, if there is one. -/
def source? (r : CodeRun) (t : Nat) : Option Nat :=
  let c := r.low + (t - r.target)
  if r.target ≤ t && r.covers c then some c else none

/-- The image of a code point under the first run that covers it. -/
def image? (runs : List CodeRun) (c : Nat) : Option Nat :=
  (runs.find? (·.covers c)).map (·.apply c)

end CodeRun

/-- The map of `start` to the first image, of its successor to the second, and so on. -/
structure CodeBlock where
  start : Nat
  images : List (List Nat)

namespace CodeBlock

/-- The image of a code point under the first block that covers it. -/
def image? (blocks : List CodeBlock) (c : Nat) : Option (List Nat) :=
  blocks.findSome? fun b => if b.start ≤ c then b.images[c - b.start]? else none

/-- The first code point with a given image. -/
def source? (blocks : List CodeBlock) (image : List Nat) : Option Nat :=
  blocks.findSome? fun b => (b.images.idxOf? image).map (b.start + ·)

end CodeBlock

end JsonSchema
