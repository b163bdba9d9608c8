import JsonSchema.Number.Shortest

/-!
# Decimal text of a double

Writing: the shortest digits, positional from `1e-5` up to below `1e16` and in exponent form outside.
Reading: a literal keeps the digits that fit in 64 bits and is scaled by one power of ten, each step
rounded; a magnitude above the greatest finite number has no value.
-/

set_option autoImplicit false

namespace JsonSchema

namespace Decimal

/-- The digits without trailing zeros, as characters. -/
def trimmed (d : Decimal) : List Char :=
  ((Nat.toDigits 10 d.digits).reverse.dropWhile (· = '0')).reverse

/-- The power of ten of the last of the `trimmed` digits. -/
def trimmedExponent (d : Decimal) : Int :=
  d.exponent + (Nat.toDigits 10 d.digits).length - d.trimmed.length

/-- The power of ten of the first digit. -/
def leadingExponent (d : Decimal) : Int := d.trimmedExponent + d.trimmed.length - 1

/-- Digits around a point, with at least one digit on either side of it. -/
def positional (d : Decimal) : List Char :=
  let ds := d.trimmed
  let e := d.trimmedExponent
  if 0 ≤ e then ds ++ List.replicate e.toNat '0' ++ ['.', '0']
  else
    let places := (-e).toNat
    if places < ds.length then
      ds.take (ds.length - places) ++ '.' :: ds.drop (ds.length - places)
    else '0' :: '.' :: List.replicate (places - ds.length) '0' ++ ds

/-- One digit, a point if more follow, and a signed exponent. -/
def scientific (d : Decimal) : List Char :=
  let e := d.leadingExponent
  let mantissa := match d.trimmed with
    | first :: second :: rest => first :: '.' :: second :: rest
    | short => short
  mantissa ++ 'e' :: (if e < 0 then '-' else '+') :: Nat.toDigits 10 e.natAbs

end Decimal

namespace Binary64

/-- The text of a double in JSON. -/
def text (x : Binary64) : String :=
  let sign := if x.negative then ['-'] else []
  let digits :=
    if x.magnitude = 0 then ['0', '.', '0']
    else
      let d := x.shortest
      if -5 ≤ d.leadingExponent ∧ d.leadingExponent < 16 then d.positional else d.scientific
  String.ofList (sign ++ digits)

/-- A power of ten, rounded. -/
def powerOfTen (n : Nat) : Binary64 := (ofRatio? false (tenToThe n) 1).getD zero

/-- Division by `10 ^ n`, in steps of at most `10 ^ 308`, each rounded. -/
def scaleDown (x : Binary64) (n : Nat) : Binary64 :=
  if n ≤ 308 then (x.div? (powerOfTen n)).getD zero
  else if x.magnitude = 0 then x
  else scaleDown ((x.div? (powerOfTen 308)).getD zero) (n - 308)
termination_by n

/-- Multiplication by `10 ^ n`, rounded once. -/
def scaleUp? (x : Binary64) (n : Nat) : Option Binary64 :=
  if n ≤ 308 then x.mul? (powerOfTen n)
  else if x.magnitude = 0 then some x
  else none

/-- The number that the literal `± significand * 10 ^ exponent` stands for. -/
def ofLiteral? (negative : Bool) (significand : Nat) (exponent : Int) : Option Binary64 := do
  let x := ofInt significand
  let scaled ← if 0 ≤ exponent then x.scaleUp? exponent.toNat else some (x.scaleDown (-exponent).toNat)
  return if negative then scaled.neg else scaled

end Binary64

end JsonSchema
