import JsonSchema.Text.Digits

/-!
# Numeric addresses

Two grammars for each kind of address.  The strict ones (`Ipv4.parse?`, `Ipv6.parse?`) are those of an
address on its own: four decimal numbers without leading zeros, or eight groups.  The lenient one
(`Ipv4.ofHost?`) is that of a host in a URI, whose parts may be decimal, octal or hexadecimal and whose
last part fills the bytes left over.
-/

set_option autoImplicit false

namespace JsonSchema

namespace Ipv4

/-- A number below 256 without leading zeros. -/
def octet? (ds : List Char) : Option Nat :=
  match ds with
  | [] => none
  | '0' :: _ :: _ => none
  | ds => if ds.length ≤ 3 then (numberIn? 10 ds).filter (· < 256) else none

/-- Four octets with points between them. -/
def parse? (cs : List Char) : Option (List Nat) :=
  let parts := splitAtChar '.' cs
  if parts.length = 4 then parts.mapM octet? else none

/-- What the text of one part of a host says. -/
inductive Part where
  | invalid
  | tooLarge
  | number (n : Nat)

/-- A part of a host: hexadecimal behind `0x`, octal behind `0`, else decimal; below `2 ^ 32`. -/
def part (cs : List Char) : Part :=
  let read (radix : Nat) (ds : List Char) : Part :=
    match numberIn? radix ds with
    | some n => if n < UInt32.size then .number n else .tooLarge
    | none => .invalid
  match cs with
  | [] => .invalid
  | '0' :: 'x' :: ds | '0' :: 'X' :: ds => read 16 ds
  | '0' :: d :: ds => read 8 (d :: ds)
  | ds => read 10 ds

/-- Whether the last part of a host is a number, so that the host has to be an address. -/
def endsInNumber (cs : List Char) : Bool :=
  let isNumber (p : List Char) : Bool :=
    (!p.isEmpty && p.all Char.isDigit) || match part p with
      | .invalid => false
      | _ => true
  match (splitAtChar '.' cs).reverse with
  | [] :: p :: _ => isNumber p
  | p :: _ => isNumber p
  | [] => false

/-- The address of a host.  Each part but the last is one byte, the last one fills the rest. -/
def ofHost? (cs : List Char) : Option Nat :=
  let parts := match (splitAtChar '.' cs).reverse with
    | [] :: rest => rest.reverse
    | all => all.reverse
  let numbers := parts.mapM fun p => match part p with
    | .number n => some n
    | _ => none
  match numbers.map List.reverse with
  | some (last :: before) =>
    if before.length ≤ 3 ∧ last >>> (8 * (4 - before.length)) = 0 ∧ before.all (· < 256) then
      some (before.reverse.foldl (fun n b => n * 256 + b) 0 <<< (8 * (4 - before.length)) + last)
    else none
  | _ => none

/-- The text of an address: its bytes, with points between them. -/
def text (address : Nat) : List Char :=
  let byte (i : Nat) : List Char := Nat.toDigits 10 (address >>> (8 * i) % 256)
  byte 3 ++ '.' :: byte 2 ++ '.' :: byte 1 ++ '.' :: byte 0

end Ipv4

namespace Ipv6

/-- A group of one to four hexadecimal digits at the start of a text. -/
def readGroup? (cs : List Char) : Option (Nat × List Char) :=
  let ds := cs.takeWhile fun c => (hexValue? c).isSome
  if ds.isEmpty || 4 < ds.length then none
  else (numberIn? 16 ds).map fun n => (n, cs.drop ds.length)

/-- An IPv4 address at the start of a text, as two groups. -/
def readIpv4? (cs : List Char) : Option (List Nat × List Char) :=
  let isPart (c : Char) : Bool := c.isDigit || c == '.'
  let whole := cs.takeWhile isPart
  match splitAtChar '.' whole with
  | a :: b :: c :: d :: more =>
    -- A point behind the fourth number is not part of the address.
    let length := a.length + b.length + c.length + d.length + 3
    match Ipv4.parse? (whole.take length) with
    | some [a, b, c, d] => some ([a * 256 + b, c * 256 + d], cs.drop (if more.isEmpty then whole.length else length))
    | _ => none
  | _ => none

/-- Reads up to `limit` groups with colons between them, of which `before` have been read.  An IPv4
address may stand for the last two. -/
def readGroups (before : Nat) : (limit : Nat) → List Char → List Nat × Bool × List Char
  | 0, cs => ([], false, cs)
  | limit + 1, cs =>
    let start := if before = 0 then some cs else match cs with
      | ':' :: rest => some rest
      | _ => none
    match start with
    | none => ([], false, cs)
    | some rest =>
      match if limit = 0 then none else readIpv4? rest with
      | some (groups, rest) => (groups, true, rest)
      | none =>
        match readGroup? rest with
        | none => ([], false, cs)
        | some (g, rest) =>
          let (groups, isIpv4, rest) := readGroups (before + 1) limit rest
          (g :: groups, isIpv4, rest)

/-- Eight groups, or fewer with one `::` for at least one group of zeros. -/
def parse? (cs : List Char) : Option (List Nat) :=
  let (front, isIpv4, rest) := readGroups 0 8 cs
  if front.length = 8 then if rest.isEmpty then some front else none
  else if isIpv4 then none
  else match rest with
    | ':' :: ':' :: rest =>
      let (back, _, rest) := readGroups 0 (7 - front.length) rest
      if rest.isEmpty then
        some (front ++ List.replicate (8 - front.length - back.length) 0 ++ back)
      else none
    | _ => none

/-- The length of the run of zeros at the start of a list. -/
def zeroRun (groups : List Nat) : Nat := (groups.takeWhile (· = 0)).length

/-- The start of the first longest run of zeros, and its length. -/
def longestZeroRun (groups : List Nat) : Nat × Nat :=
  (List.range groups.length).foldl (fun best i =>
    let n := zeroRun (groups.drop i)
    if best.2 < n then (i, n) else best) (0, 0)

def groupsText (groups : List Nat) : List Char :=
  match groups with
  | [] => []
  | g :: rest => Nat.toDigits 16 g ++ rest.flatMap fun g => ':' :: Nat.toDigits 16 g

/-- The text of an address: the first longest run of two or more zeros is left out. -/
def text (groups : List Nat) : List Char :=
  let (start, length) := longestZeroRun groups
  if length < 2 then groupsText groups
  else groupsText (groups.take start) ++ ':' :: ':' :: groupsText (groups.drop (start + length))

end Ipv6

end JsonSchema
