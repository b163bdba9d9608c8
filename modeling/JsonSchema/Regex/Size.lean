import JsonSchema.Regex.Basic

/-!
# The size of an expression

Counted repetitions write their body out, so that short expressions can stand for huge automata.  The
size is that of an automaton which reads the bytes of a text from its end, where sequences of bytes for one
set share the states of their common beginnings.  Expressions above `Regex.maxSize` are refused.
-/

set_option autoImplicit false

namespace JsonSchema

open Unicode

/-- The table of a set, but for some case variants. -/
def CharSet.tableWithoutCase : CharSet → CodeTable
  | range low high => if low ≤ high then [low, high + 1] else []
  | table t => t
  | union a b => .combine or a.tableWithoutCase b.tableWithoutCase
  | inter a b => .combine and a.tableWithoutCase b.tableWithoutCase
  | diff a b => .combine (fun inA inB => inA && !inB) a.tableWithoutCase b.tableWithoutCase
  | compl a => .combine (fun inA _ => !inA) a.tableWithoutCase []
  | foldCase a => a.tableWithoutCase

/-! ## Ranges of bytes -/

/-- For each byte of a character the range in which it lies. -/
abbrev ByteRanges := List (Nat × Nat)

namespace ByteRanges

/-- The first byte of a character with a number of bytes behind it, or one of those if there is no number. -/
def marker : Option Nat → Nat
  | none => 0x80
  | some 0 => 0
  | some 1 => 0xC0
  | some 2 => 0xE0
  | some _ => 0xF0

/-- The bytes of the codes from `low` to `high`, where `more` bytes follow the first one. -/
def ofCodes (length : Option Nat) : (more low high : Nat) → List ByteRanges
  | 0, low, high => [[(marker length + low, marker length + high)]]
  | more + 1, low, high =>
    let block := 64 <<< (6 * more)
    let under (first low high : Nat) : List ByteRanges :=
      (ofCodes none more low high).map ((marker length + first, marker length + first) :: ·)
    let whole (first last : Nat) : List ByteRanges :=
      if first ≤ last then
        [(marker length + first, marker length + last) :: List.replicate (more + 1) (0x80, 0xBF)]
      else []
    let first := low / block
    let last := high / block
    let opens := low % block == 0
    let closes := high % block == block - 1
    if opens && closes then whole first last
    else if first = last then under first (low % block) (high % block)
    else
      (if opens then [] else under first (low % block) (block - 1)) ++
        whole (if opens then first else first + 1) (if closes then last else last - 1) ++
        (if closes then [] else under last 0 (high % block))

/-- The bytes of the characters of a set, in increasing order. -/
def ofTable (t : CodeTable) : List ByteRanges :=
  let lengths := [(0, 0, 0x80), (1, 0x80, 0x800), (2, 0x800, 0xD800), (2, 0xE000, 0x10000),
    (3, 0x10000, 0x110000)]
  lengths.flatMap fun (more, least, bound) => ranges more least bound t
where
  /-- The bytes of the members of `t` from `least` on and below `bound`. -/
  ranges (more least bound : Nat) : CodeTable → List ByteRanges
    | [] => []
    | [low] => part more (max low least) bound
    | low :: high :: rest => part more (max low least) (min high bound) ++ ranges more least bound rest
  part (more low high : Nat) : List ByteRanges :=
    if low < high then ofCodes (some more) more low (high - 1) else []

/-- How many elements two lists have in common at their beginnings. -/
def shared : ByteRanges → ByteRanges → Nat
  | a :: as, b :: bs => if a == b then shared as bs + 1 else 0
  | _, _ => 0

/-- How many different beginnings there are in a list, where equal ones follow each other. -/
def beginnings (previous : ByteRanges) : List ByteRanges → Nat
  | [] => 0
  | s :: rest => s.length - shared previous s + beginnings s rest

end ByteRanges

namespace Regex

/-! ## Sizes -/

/-- The bytes of one state. -/
def stateSize : Nat := 32

/-- The bytes of a way on from a state which reads no byte. -/
def branchSize : Nat := 4

/-- The bytes of a way on from a state which reads one. -/
def edgeSize : Nat := 8

/-- The bytes of the states for one character of a set. -/
def setSize (t : CodeTable) : Nat :=
  match ByteRanges.ofTable t with
  | [] => stateSize
  | [s] =>
    if s.length = 1 || s.all (fun r => r.1 = r.2) then stateSize * s.length
    else stateSize * (s.length + 2) + branchSize
  | sequences =>
    if sequences.all (·.length = 1) then stateSize + edgeSize * sequences.length
    else stateSize * (ByteRanges.beginnings [] sequences + 2) + branchSize * sequences.length

/-- Whether an expression takes no characters. -/
def takesNone : Regex → Bool
  | empty | look _ => true
  | chars _ => false
  | seq a b | alt a b => a.takesNone && b.takesNone
  | «repeat» body _ most => body.takesNone || most == some 0

/-- The size of a repetition of a body of size `n`. -/
def repeatSize (n least : Nat) : Option Nat → Nat
  | some most =>
    let fixed := if least = 0 then stateSize else n * least
    if least = most then fixed else fixed + (n + stateSize + 2 * branchSize) * (most - least) + stateSize
  | none => n * max 1 least + stateSize + 2 * branchSize

/-- The size of an expression.  One that takes no characters is not repeated. -/
def size : Regex → Nat
  | empty => stateSize
  | chars set => setSize set.tableWithoutCase
  | look _ => stateSize
  | seq a b => a.size + b.size
  | alt a (alt b c) => a.size + (alt b c).size + branchSize
  | alt a b => a.size + b.size + 2 * (stateSize + branchSize)
  | «repeat» body least most =>
    if body.takesNone then repeatSize body.size (min least 1) (some (min (most.getD 1) 1))
    else repeatSize body.size least most

/-- The largest size that is accepted: ten mebibytes. -/
def maxSize : Nat := 10 <<< 20

end Regex

end JsonSchema
