/-!
# Punycode

A text written in ASCII alone: its ASCII characters, then for each other character, in increasing order,
how far it lies from the one before.  A distance counts all places at which all smaller characters could
have stood.  It is a number of digits to a base of 36, the lowest first, where each digit has a limit; a
digit below its limit ends the number.  The limits follow the size of the distances so far.
-/

set_option autoImplicit false

namespace JsonSchema.Punycode

/-- Letters are the digits from 0 to 25, figures those from 26 to 35. -/
def digitChar (d : Nat) : Char := Char.ofNat (if d < 26 then 0x61 + d else 0x30 + (d - 26))

def digit? (c : Char) : Option Nat :=
  if 'a' ≤ c ∧ c ≤ 'z' then some (c.toNat - 0x61)
  else if 'A' ≤ c ∧ c ≤ 'Z' then some (c.toNat - 0x41)
  else if '0' ≤ c ∧ c ≤ '9' then some (c.toNat - 0x30 + 26)
  else none

/-- The limit of the digit at a place, where places are counted in steps of 36. -/
def limit (bias place : Nat) : Nat := min 26 (max 1 (place - bias))

theorem limit_pos (bias place : Nat) : 1 ≤ limit bias place := by
  unfold limit; omega

theorem limit_le (bias place : Nat) : limit bias place ≤ 26 := by
  unfold limit; omega

/-- The place at which the digits of a number about as large as `n` end. -/
def spread (n place : Nat) : Nat :=
  if 455 < n then spread (n / 35) (place + 36) else place + 36 * n / (n + 38)
termination_by n

/-- The bias after a distance: the first is far larger than those that follow. -/
def nextBias (distance count : Nat) (first : Bool) : Nat :=
  let scaled := if first then distance / 700 else distance / 2
  spread (scaled + scaled / count) 0

/-- Numbers stay below this bound. -/
def bound : Nat := UInt32.size

/-! ## Writing -/

/-- The digits of a number. -/
def writeNumber (bias place n : Nat) : List Char :=
  if n < limit bias place then [digitChar n]
  else
    let base := 36 - limit bias place
    let rest := n - limit bias place
    digitChar (limit bias place + rest % base) :: writeNumber bias (place + 36) (rest / base)
termination_by n
decreasing_by
  have := limit_pos bias place
  have := Nat.div_le_self (n - limit bias place) (36 - limit bias place)
  omega

/-- How far writing has come. -/
structure Progress where
  /-- The distance from the character that was written last. -/
  distance : Nat
  bias : Nat
  /-- How many characters are written. -/
  count : Nat
  first : Bool

/-- Passes the places of `code` in the text: smaller characters lie between, and each `code` is written. -/
def writeCode (code : Nat) : Progress → List Nat → List Char × Progress
  | p, [] => ([], p)
  | p, c :: rest =>
    if c < code then writeCode code { p with distance := p.distance + 1 } rest
    else if c = code then
      let next : Progress :=
        { distance := 0, bias := nextBias p.distance (p.count + 1) p.first, count := p.count + 1, first := false }
      let (digits, last) := writeCode code next rest
      (writeNumber p.bias 36 p.distance ++ digits, last)
    else writeCode code p rest

/-- Writes the characters with the given codes, which increase; `floor` is the least code not yet passed. -/
def writeCodes (text : List Nat) (floor : Nat) (p : Progress) : List Nat → List Char
  | [] => []
  | code :: codes =>
    let reached := { p with distance := p.distance + (code - floor) * (p.count + 1) }
    let (digits, last) := writeCode code reached text
    digits ++ writeCodes text (code + 1) { last with distance := last.distance + 1 } codes

def encode (text : List Char) : List Char :=
  let ascii := text.filter (·.toNat < 0x80)
  let codes := (text.filter (0x80 ≤ ·.toNat)).map Char.toNat
  let start : Progress := { distance := 0, bias := 72, count := ascii.length, first := true }
  (if ascii.isEmpty then [] else ascii ++ ['-']) ++
    writeCodes (text.map Char.toNat) 0x80 start (codes.eraseDups.mergeSort (· ≤ ·))

/-! ## Reading -/

/-- Reads a number, each of whose digits counts `weight` times; gives the text behind it, too. -/
def readNumber? (bias place weight n : Nat) :
    (text : List Char) → Option (Nat × { rest : List Char // rest.length < text.length })
  | [] => none
  | c :: text => do
    let d ← digit? c
    let n := n + d * weight
    let base := 36 - limit bias place
    if bound ≤ n then none
    else if d < limit bias place then some (n, ⟨text, by simp⟩)
    else if bound ≤ weight * base then none
    else
      let (n, ⟨rest, shorter⟩) ← readNumber? bias (place + 36) (weight * base) n text
      some (n, ⟨rest, by simp; omega⟩)

/-- Puts the characters of a text at their places.  `code` is the last one and `place` the place behind it,
    which is 0 only before the first. -/
def readCodes? (bias code place : Nat) (done : List Char) : List Char → Option (List Char)
  | [] => some done
  | c :: text =>
    match readNumber? bias 36 1 place (c :: text) with
    | none => none
    | some (n, ⟨rest, _⟩) =>
      let count := done.length + 1
      let code := code + n / count
      if code.isValidChar then
        readCodes? (nextBias (n - place) count (place == 0)) code (n % count + 1)
          (done.insertIdx (n % count) (Char.ofNat code)) rest
      else none
termination_by text => text.length
decreasing_by assumption

/-- The text that was written, if the one given is written text. -/
def decode? (text : List Char) : Option (List Char) :=
  let digits := (text.reverse.takeWhile (· != '-')).reverse
  let ascii := text.take (text.length - digits.length - 1)
  if ascii.isEmpty then readCodes? 72 0x80 0 [] text
  else if ascii.all (·.toNat < 0x80) then readCodes? 72 0x80 0 ascii digits
  else none

end JsonSchema.Punycode
