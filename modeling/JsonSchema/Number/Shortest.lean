import JsonSchema.Number.Binary64

/-!
# The shortest decimal that reads back

`Binary64.shortest` is the decimal of fewest digits inside the interval of reals that round to a
number, and among those of equal length the one nearest to it.  The search tries the decimal grids of
one digit, two digits and so on; on each grid only the two neighbours of the number can be hits.
-/

set_option autoImplicit false

namespace JsonSchema

/-- The decimal number `digits * 10 ^ exponent`. -/
structure Decimal where
  digits : Nat
  exponent : Int
deriving DecidableEq, Inhabited

/-- A power of ten. -/
def tenToThe (n : Nat) : Nat := Nat.pow 10 n

namespace Binary64

/-! All lengths below are in quarters of a unit, so that the ends of the interval are whole. -/

/-- Four times the magnitude. -/
def quarters (x : Binary64) : Nat := 4 * x.magnitude

/-- The quarters from the number down to the midpoint with its lower neighbour. -/
def roomBelow (x : Binary64) : Nat :=
  if x.significand = 1 <<< 52 ∧ x.exponent ≠ 0 then 1 <<< x.exponent else 2 <<< x.exponent

/-- The quarters from the number up to the midpoint with its upper neighbour. -/
def roomAbove (x : Binary64) : Nat := 2 <<< x.exponent

/-- Whether a decimal rounds to the number; a midpoint does if the significand is even. -/
def readsBack (x : Binary64) (d : Decimal) : Bool :=
  let scale := tenToThe (-d.exponent).toNat
  let value := 4 * unitsPerOne * d.digits * tenToThe d.exponent.toNat
  let low := (x.quarters - x.roomBelow) * scale
  let high := (x.quarters + x.roomAbove) * scale
  if x.significand % 2 = 0 then decide (low ≤ value) && decide (value ≤ high)
  else decide (low < value) && decide (value < high)

/-- On the grid of multiples of `10 ^ exponent`, the hit nearest to the number. -/
def nearestOnGrid? (x : Binary64) (exponent : Int) : Option Decimal :=
  let num := x.quarters * tenToThe (-exponent).toNat
  let den := 4 * unitsPerOne * tenToThe exponent.toNat
  let d := num / den
  let nearer : Decimal := ⟨roundQuotient num den, exponent⟩
  let other : Decimal := ⟨2 * d + 1 - nearer.digits, exponent⟩
  if x.readsBack nearer then some nearer
  else if x.readsBack other then some other
  else none

/-- The least `k` with the magnitude below `10 ^ k`. -/
def decimalOrder (x : Binary64) : Int :=
  let guess : Int := ((x.magnitude.log2 : Int) - 1074) * 30103 / 100000
  let isAbove (k : Int) : Bool :=
    decide (x.magnitude * tenToThe (-k).toNat < unitsPerOne * tenToThe k.toNat)
  ([guess - 1, guess, guess + 1].find? isAbove).getD (guess + 2)

/-- The shortest decimal that reads back as the magnitude; no number needs more than 17 digits. -/
def shortest (x : Binary64) : Decimal :=
  let order := x.decimalOrder
  ((List.range 17).findSome? fun (n : Nat) => x.nearestOnGrid? (order - (n + 1))).getD ⟨0, 0⟩

end Binary64

end JsonSchema
