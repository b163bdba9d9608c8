import JsonSchema.Json.Basic
import JsonSchema.Text.Digits

/-!
# Reading JSON text

`Json.parse?` reads one value with blanks around it.  A member named twice keeps its first place and
its last value.  Refused are: nesting of more than 127 arrays and objects, control characters and lone
surrogates in strings, and numbers above the greatest double.

Every reader takes the characters that are left and answers what it read with the rest.  The readers
of values call each other with a budget of one more than the characters there are, and each call
follows the reading of a character, so that the budget never runs out.
-/

set_option autoImplicit false

namespace JsonSchema

namespace Json

/-- The four blanks of JSON. -/
def isBlank (c : Char) : Bool := c = ' ' || c = '\n' || c = '\t' || c = '\r'

def skipBlanks (cs : List Char) : List Char := cs.dropWhile isBlank

/-! ## Numbers -/

def digitValue (c : Char) : Nat := c.toNat - '0'.toNat

/-- The digits of a literal as far as they fit in 64 bits. -/
structure Significand where
  value : Nat := 0
  /-- The power of ten that the places left out or behind the point amount to. -/
  exponent : Int := 0

/-- Whether one more digit would need more than 64 bits. -/
def Significand.isFullFor (s : Significand) (c : Char) : Bool :=
  decide (UInt64.size ≤ s.value * 10 + digitValue c)

/-- Reads the integer digits.  From the first digit that does not fit, digits only raise the exponent. -/
def readInteger (s : Significand) : List Char → Significand × Bool × List Char
  | [] => (s, true, [])
  | c :: rest =>
    if !c.isDigit then (s, true, c :: rest)
    else if s.isFullFor c then
      let dropped := (c :: rest).takeWhile Char.isDigit
      ({ s with exponent := s.exponent + dropped.length }, false, (c :: rest).dropWhile Char.isDigit)
    else readInteger { s with value := s.value * 10 + digitValue c } rest

/-- Reads the digits behind the point.  From the first digit that does not fit, digits are ignored. -/
def readFraction (s : Significand) : List Char → Significand × List Char
  | [] => (s, [])
  | c :: rest =>
    if !c.isDigit then (s, c :: rest)
    else if s.isFullFor c then (s, rest.dropWhile Char.isDigit)
    else readFraction ⟨s.value * 10 + digitValue c, s.exponent - 1⟩ rest

/-- Reads what may follow `e`: a sign and at least one digit. -/
def readExponent (cs : List Char) : Option (Int × List Char) :=
  let (negative, digits) := match cs with
    | '-' :: rest => (true, rest)
    | '+' :: rest => (false, rest)
    | rest => (false, rest)
  match digits.takeWhile Char.isDigit with
  | [] => none
  | ds =>
    let n : Int := natOfDigits ds
    some (if negative then -n else n, digits.dropWhile Char.isDigit)

/-- The exponent of a literal, if there is one, then the double that it stands for. -/
def finishDouble (negative : Bool) (s : Significand) (cs : List Char) : Option (Number × List Char) :=
  match cs with
  | c :: rest =>
    if c = 'e' || c = 'E' then do
      let (e, rest) ← readExponent rest
      let x ← Binary64.ofLiteral? negative s.value (s.exponent + e)
      return (.double x, rest)
    else do
      let x ← Binary64.ofLiteral? negative s.value s.exponent
      return (.double x, c :: rest)
  | [] => do
    let x ← Binary64.ofLiteral? negative s.value s.exponent
    return (.double x, [])

/-- An integer literal: `-0` and integers beyond 64 bits are doubles. -/
def integerNumber (negative : Bool) (n : Nat) : Number :=
  if negative then
    if n = 0 then .double Binary64.zero.neg
    else (Number.ofInt? (-n)).getD (.double (Binary64.ofInt (-n)))
  else (Number.ofInt? n).getD (.double (Binary64.ofInt n))

/-- A number without its sign. -/
def readUnsigned (negative : Bool) (cs : List Char) : Option (Number × List Char) :=
  let afterInteger (s : Significand) (isWhole : Bool) (cs : List Char) : Option (Number × List Char) :=
    match cs with
    | '.' :: rest =>
      match rest with
      | c :: _ =>
        if c.isDigit then
          let (s, rest) := readFraction s rest
          finishDouble negative s rest
        else none
      | [] => none
    | c :: _ =>
      if !isWhole || c = 'e' || c = 'E' then finishDouble negative s cs
      else some (integerNumber negative s.value, cs)
    | [] =>
      if isWhole then some (integerNumber negative s.value, []) else finishDouble negative s []
  match cs with
  | '0' :: rest =>
    match rest with
    | c :: _ => if c.isDigit then none else afterInteger {} true rest
    | [] => afterInteger {} true []
  | c :: _ =>
    if c.isDigit then
      let (s, isWhole, rest) := readInteger {} cs
      afterInteger s isWhole rest
    else none
  | [] => none

def readNumber : List Char → Option (Number × List Char)
  | '-' :: rest => readUnsigned true rest
  | cs => readUnsigned false cs

/-! ## Strings -/

/-- The value of four hexadecimal digits. -/
def hexQuad? (a b c d : Char) : Option Nat := do
  return (← hexValue? a) * 4096 + (← hexValue? b) * 256 + (← hexValue? c) * 16 + (← hexValue? d)

def simpleEscape? (c : Char) : Option Char :=
  match c with
  | '"' => some '"'
  | '\\' => some '\\'
  | '/' => some '/'
  | 'b' => some '\x08'
  | 'f' => some '\x0c'
  | 'n' => some '\n'
  | 'r' => some '\r'
  | 't' => some '\t'
  | _ => none

/-- Reads a string behind its opening quote; the characters read so far are in reverse. -/
def readString (done : List Char) : List Char → Option (String × List Char)
  | '"' :: rest => some (String.ofList done.reverse, rest)
  | '\\' :: 'u' :: a :: b :: c :: d :: rest =>
    match hexQuad? a b c d with
    | none => none
    | some unit =>
      if unit < 0xD800 ∨ 0xE000 ≤ unit then readString (Char.ofNat unit :: done) rest
      else if 0xDC00 ≤ unit then none
      else match rest with
        | '\\' :: 'u' :: a :: b :: c :: d :: rest =>
          match hexQuad? a b c d with
          | none => none
          | some low =>
            if 0xDC00 ≤ low ∧ low < 0xE000 then
              readString (Char.ofNat (0x10000 + (unit - 0xD800) * 0x400 + (low - 0xDC00)) :: done) rest
            else none
        | _ => none
  | '\\' :: c :: rest =>
    match simpleEscape? c with
    | some c => readString (c :: done) rest
    | none => none
  | c :: rest => if c = '\\' ∨ c.toNat < 0x20 then none else readString (c :: done) rest
  | [] => none

/-! ## Values -/

/-- The deepest nesting of arrays and objects that is read. -/
def maxNesting : Nat := 127

mutual

/-- Reads a value with at most `depth` arrays and objects inside each other. -/
def readValue : (budget depth : Nat) → List Char → Option (Json × List Char)
  | 0, _, _ => none
  | budget + 1, depth, cs =>
    match cs with
    | 'n' :: 'u' :: 'l' :: 'l' :: rest => some (.null, rest)
    | 't' :: 'r' :: 'u' :: 'e' :: rest => some (.bool true, rest)
    | 'f' :: 'a' :: 'l' :: 's' :: 'e' :: rest => some (.bool false, rest)
    | '"' :: rest => (readString [] rest).map fun (s, rest) => (.str s, rest)
    | '[' :: rest =>
      match depth with
      | 0 => none
      | depth + 1 =>
        match skipBlanks rest with
        | ']' :: rest => some (.arr [], rest)
        | rest => readItems budget depth [] rest
    | '{' :: rest =>
      match depth with
      | 0 => none
      | depth + 1 =>
        match skipBlanks rest with
        | '}' :: rest => some (.obj [], rest)
        | rest => readMembers budget depth [] rest
    | cs => (readNumber cs).map fun (n, rest) => (.num n, rest)

/-- Reads the elements of an array from the start of one of them; those before are in reverse. -/
def readItems : (budget depth : Nat) → List Json → List Char → Option (Json × List Char)
  | 0, _, _, _ => none
  | budget + 1, depth, done, cs =>
    match readValue budget depth (skipBlanks cs) with
    | none => none
    | some (v, rest) =>
      match skipBlanks rest with
      | ',' :: rest => readItems budget depth (v :: done) rest
      | ']' :: rest => some (.arr (v :: done).reverse, rest)
      | _ => none

/-- Reads the members of an object from the start of one of them. -/
def readMembers : (budget depth : Nat) → List (String × Json) → List Char → Option (Json × List Char)
  | 0, _, _, _ => none
  | budget + 1, depth, done, cs =>
    match skipBlanks cs with
    | '"' :: rest =>
      match readString [] rest with
      | none => none
      | some (name, rest) =>
        match skipBlanks rest with
        | ':' :: rest =>
          match readValue budget depth (skipBlanks rest) with
          | none => none
          | some (v, rest) =>
            let done := setMember done name v
            match skipBlanks rest with
            | ',' :: rest => readMembers budget depth done rest
            | '}' :: rest => some (.obj done, rest)
            | _ => none
        | _ => none
    | _ => none

end

/-- The value that a text holds, if it is JSON. -/
def parse? (text : String) : Option Json :=
  let cs := text.toList
  match readValue (cs.length + 1) maxNesting (skipBlanks cs) with
  | some (v, rest) => if (skipBlanks rest).isEmpty then some v else none
  | none => none

end Json

end JsonSchema
