/-!
# Digits and pieces of a text

The values of digits and of numerals, and the cutting of a text at a separator.
-/

set_option autoImplicit false

namespace JsonSchema

/-- The value of a decimal or hexadecimal digit of ASCII. -/
def hexValue? (c : Char) : Option Nat :=
  if c.isDigit then some (c.toNat - '0'.toNat)
  else if 'a' ≤ c ∧ c ≤ 'f' then some (c.toNat - 'a'.toNat + 10)
  else if 'A' ≤ c ∧ c ≤ 'F' then some (c.toNat - 'A'.toNat + 10)
  else none

/-- The number that the digits spell in a radix of at most sixteen, if all are digits of it. -/
def numberIn? (radix : Nat) (ds : List Char) : Option Nat :=
  ds.foldlM (fun n c => ((hexValue? c).filter (· < radix)).map (n * radix + ·)) 0

/-- The number that a run of decimal digits spells. -/
def natOfDigits (ds : List Char) : Nat := ds.foldl (fun n c => n * 10 + (c.toNat - '0'.toNat)) 0

/-- The pieces between the occurrences of a character; there is always at least one. -/
def splitAtChar (sep : Char) : List Char → List (List Char)
  | [] => [[]]
  | c :: rest =>
    if c = sep then [] :: splitAtChar sep rest
    else match splitAtChar sep rest with
      | [] => [[c]]
      | piece :: pieces => (c :: piece) :: pieces

end JsonSchema
