import JsonSchema.Regex.Basic
import JsonSchema.Text.Digits
import JsonSchema.Unicode.PropertyNames

/-!
# Reading characters, escapes and bracketed classes

A reader takes the characters left of the expression and answers what it read with the rest.  In
verbose mode blanks and comments between the parts of an expression do not count.

`depth` counts the brackets, operators and unions inside each other; an expression may nest 250 deep.
-/

set_option autoImplicit false

namespace JsonSchema.Regex

open Unicode CharSet

/-- The switches that `(?...)` turns on and off. -/
structure Flags where
  ignoreCase : Bool := false
  multiLine : Bool := false
  dotAll : Bool := false
  swapGreed : Bool := false
  unicode : Bool := true
  crlf : Bool := false
  verbose : Bool := false

def isBlank (c : Char) : Bool := whiteSpace.contains c.toNat

/-- What is left behind a comment, which ends with its line. -/
def dropComment : List Char → List Char
  | [] => []
  | c :: rest => if c = '\n' then rest else dropComment rest

theorem length_dropComment_le : ∀ cs : List Char, (dropComment cs).length ≤ cs.length
  | [] => Nat.le_refl _
  | c :: rest => by
    have := length_dropComment_le rest
    simp only [dropComment]
    split <;> simp only [List.length_cons] <;> omega

/-- In verbose mode, what is left behind blanks and comments. -/
def skip (verbose : Bool) (cs : List Char) : List Char :=
  match cs with
  | [] => []
  | c :: rest =>
    if !verbose then c :: rest
    else if isBlank c then skip verbose rest
    else if c = '#' then skip verbose (dropComment rest)
    else c :: rest
termination_by cs.length
decreasing_by
  · simp
  · have := length_dropComment_le rest
    simp only [List.length_cons]
    omega

/-! ## Escapes -/

/-- One part of an expression that is written as a character or an escape. -/
inductive Primitive where
  | literal (c : Char)
  /-- A byte written with two hexadecimal digits. -/
  | byte (n : Nat)
  /-- A property of characters; only Unicode mode has those. -/
  | property (set : CharSet) (negated : Bool)
  | perl (name : Char) (negated : Bool)
  | assertion (name : String)

def isMeta (c : Char) : Bool := "\\.+*?()|[]\x7b\x7d^$#&-~".toList.contains c

/-- Characters that a backslash leaves as they are, beyond those with a meaning. -/
def isEscapable (c : Char) : Bool :=
  isMeta c || (c.toNat < 0x80 && !c.isAlphanum && c != '<' && c != '>')

/-- The character with a code point, if there is one. -/
def charOf? (n : Nat) : Option Char := if n.isValidChar then some (Char.ofNat n) else none

/-- Reads `n` characters, leaving out what verbose mode ignores between them. -/
def takeSkipping (verbose : Bool) : Nat → List Char → Option (List Char × List Char)
  | 0, cs => some ([], cs)
  | _ + 1, [] => none
  | n + 1, c :: rest => do
    let (taken, rest) ← takeSkipping verbose n (skip verbose rest)
    return (c :: taken, rest)

/-- Reads up to a closing brace, leaving out what verbose mode ignores. -/
def untilBrace (verbose : Bool) : (budget : Nat) → List Char → Option (List Char × List Char)
  | 0, _ => none
  | _ + 1, [] => none
  | _ + 1, '}' :: rest => some ([], rest)
  | budget + 1, c :: rest => do
    let (taken, rest) ← untilBrace verbose budget (skip verbose rest)
    return (c :: taken, rest)

/-- Reads the digits behind `\x`, `\u` or `\U`: a fixed number of them or any number in braces. -/
def readHex (verbose : Bool) (width : Nat) (cs : List Char) : Option (Primitive × List Char) :=
  match skip verbose cs with
  | '{' :: rest => do
    let rest := skip verbose rest
    let (ds, rest) ← untilBrace verbose (rest.length + 1) rest
    if ds.isEmpty then none
    let c ← (← numberIn? 16 ds) |> charOf?
    return (.literal c, rest)
  | cs => do
    let (ds, rest) ← takeSkipping verbose width cs
    let n ← numberIn? 16 ds
    let c ← charOf? n
    return (if width = 2 then .byte n else .literal c, rest)

/-- Cuts a list at the first place where another list starts. -/
def cutAt? (mark : List Char) : List Char → Option (List Char × List Char)
  | [] => none
  | c :: rest =>
    if mark.isPrefixOf (c :: rest) then some ([], (c :: rest).drop mark.length)
    else (cutAt? mark rest).map fun (before, after) => (c :: before, after)

/-- The property that the text between the braces of `\p` asks for, and whether it is negated there. -/
def property? (name : List Char) : Option (CharSet × Bool) :=
  match cutAt? ['!', '='] name with
  | some (n, v) => (propertyValue? n v).map (·, true)
  | none =>
    match cutAt? [':'] name <|> cutAt? ['='] name with
    | some (n, v) => (propertyValue? n v).map (·, false)
    | none => (propertyNamed? name).map (·, false)

/-- Reads what follows `\p` or `\P`: one letter, or a name in braces. -/
def readProperty (verbose negated : Bool) (cs : List Char) : Option (Primitive × List Char) :=
  let finish (name rest : List Char) : Option (Primitive × List Char) := do
    let (set, inner) ← property? name
    return (.property set (negated != inner), rest)
  match skip verbose cs with
  | [] => none
  | '{' :: rest => do
    let rest := skip verbose rest
    let (name, rest) ← untilBrace verbose (rest.length + 1) rest
    finish name rest
  | '\\' :: _ => none
  | c :: rest => finish [c] (skip verbose rest)

/-- Reads the name in braces of an assertion on words, if what follows `\b` is one. -/
def readWordAssertion (verbose : Bool) (cs : List Char) : Option (Option (String × List Char)) :=
  let isNameChar (c : Char) : Bool := c.isAlpha || c == '-'
  match cs with
  | '{' :: rest =>
    match skip verbose rest with
    | [] => none
    | c :: rest =>
      if !isNameChar c then some none
      else do
        let (name, rest) ← untilBrace verbose (rest.length + 2) (c :: rest)
        let name := String.ofList name
        if ["start", "end", "start-half", "end-half"].contains name then some (some (name, rest))
        else none
  | _ => some none

/-- Reads what follows a backslash. -/
def readEscape (verbose : Bool) (cs : List Char) : Option (Primitive × List Char) :=
  match cs with
  | [] => none
  | c :: rest =>
    if c.isDigit then none
    else if c = 'x' then readHex verbose 2 rest
    else if c = 'u' then readHex verbose 4 rest
    else if c = 'U' then readHex verbose 8 rest
    else if c = 'p' then readProperty verbose false rest
    else if c = 'P' then readProperty verbose true rest
    else if c = 'd' ∨ c = 's' ∨ c = 'w' then some (.perl c false, rest)
    else if c = 'D' ∨ c = 'S' ∨ c = 'W' then some (.perl c.toLower true, rest)
    else if isEscapable c then some (.literal c, rest)
    else match c with
      | 'a' => some (.literal '\x07', rest)
      | 'f' => some (.literal '\x0c', rest)
      | 't' => some (.literal '\t', rest)
      | 'n' => some (.literal '\n', rest)
      | 'r' => some (.literal '\r', rest)
      | 'v' => some (.literal '\x0b', rest)
      | 'A' => some (.assertion "A", rest)
      | 'z' => some (.assertion "z", rest)
      | 'B' => some (.assertion "B", rest)
      | '<' => some (.assertion "start", rest)
      | '>' => some (.assertion "end", rest)
      | 'b' => do
        match ← readWordAssertion verbose rest with
        | some (name, rest) => return (.assertion name, rest)
        | none => return (.assertion "b", rest)
      | _ => none

/-! ## Sets -/

def asciiDigits : CharSet := range '0'.toNat '9'.toNat

def asciiBlanks : CharSet := ofChars "\t\n\x0b\x0c\r "

def asciiWordChars : CharSet :=
  unionAll [asciiDigits, range 'A'.toNat 'Z'.toNat, range 'a'.toNat 'z'.toNat, single '_']

/-- The set behind `\d`, `\s` and `\w`. -/
def perlSet (flags : Flags) (name : Char) : CharSet :=
  match name with
  | 'd' => if flags.unicode then digits else asciiDigits
  | 's' => if flags.unicode then blanks else asciiBlanks
  | _ => if flags.unicode then wordChars else asciiWordChars

def negatedIf (negated : Bool) (set : CharSet) : CharSet := if negated then compl set else set

/-- Closure under case variants, if case is ignored; without Unicode only among ASCII characters. -/
def withCase (flags : Flags) (set : CharSet) : CharSet :=
  if !flags.ignoreCase then set
  else if flags.unicode then foldCase set
  else union set (inter ascii (foldCase (inter set ascii)))

/-- Without Unicode, a set counts as one of bytes, and those beyond ASCII are refused. -/
def checkedSet? (flags : Flags) (set : CharSet) : Option CharSet :=
  if flags.unicode then some set
  else if (List.range 0x80).any fun i => set.contains (0x80 + i) then none
  else some (inter set ascii)

/-- The set of a class such as `[:alpha:]`. -/
def posixSet? (name : String) : Option CharSet :=
  let upper := range 'A'.toNat 'Z'.toNat
  let lower := range 'a'.toNat 'z'.toNat
  let alpha := union upper lower
  match name with
  | "alnum" => some (union alpha asciiDigits)
  | "alpha" => some alpha
  | "ascii" => some ascii
  | "blank" => some (ofChars "\t ")
  | "cntrl" => some (union (range 0 0x1F) (range 0x7F 0x7F))
  | "digit" => some asciiDigits
  | "graph" => some (range 0x21 0x7E)
  | "lower" => some lower
  | "print" => some (range 0x20 0x7E)
  | "punct" => some (diff (range 0x21 0x7E) (union alpha asciiDigits))
  | "space" => some asciiBlanks
  | "upper" => some upper
  | "word" => some asciiWordChars
  | "xdigit" => some (unionAll [asciiDigits, range 'A'.toNat 'F'.toNat, range 'a'.toNat 'f'.toNat])
  | _ => none

/-- Reads a class such as `[:alpha:]` behind its first bracket; `none` if it is not one. -/
def readPosix (cs : List Char) : Option (CharSet × Bool × List Char) :=
  match cs with
  | ':' :: rest =>
    let (negated, rest) := match rest with
      | '^' :: rest => (true, rest)
      | rest => (false, rest)
    let name := rest.takeWhile (· ≠ ':')
    match rest.dropWhile (· ≠ ':') with
    | ':' :: ']' :: rest => (posixSet? (String.ofList name)).map (·, negated, rest)
    | _ => none
  | _ => none

/-! ## Bracketed classes -/

/-- The set of one primitive inside brackets; assertions have none. -/
def Primitive.set? (flags : Flags) : Primitive → Option CharSet
  | literal c =>
    if flags.unicode || c.toNat < 0x80 then some (single c) else none
  | byte n => some (range n n)
  | property set negated =>
    if flags.unicode then some (negatedIf negated (withCase flags set)) else none
  | perl name negated => checkedSet? flags (negatedIf negated (perlSet flags name))
  | assertion _ => none

/-- The code point of a primitive that can be an end of a range. -/
def Primitive.code? (flags : Flags) : Primitive → Option Nat
  | literal c => if flags.unicode || c.toNat < 0x80 then some c.toNat else none
  | byte n => some n
  | _ => none

/-- Reads one character or escape inside brackets. -/
def readClassPrimitive (verbose : Bool) (cs : List Char) : Option (Primitive × List Char) :=
  match cs with
  | [] => none
  | '\\' :: rest => readEscape verbose rest
  | c :: rest => some (.literal c, rest)

/-- Reads one character, escape or range inside brackets. -/
def readClassItem (flags : Flags) (cs : List Char) : Option (CharSet × List Char) := do
  let (first, rest) ← readClassPrimitive flags.verbose cs
  let rest := skip flags.verbose rest
  match rest with
  | [] => none
  | c :: more =>
    let next := (skip flags.verbose more).head?
    if c ≠ '-' ∨ next = some ']' ∨ next = some '-' then
      return (← first.set? flags, rest)
    else
      let (last, rest) ← readClassPrimitive flags.verbose (skip flags.verbose more)
      let low ← first.code? flags
      let high ← last.code? flags
      if low ≤ high then return (range low high, rest) else none

/-- The items read since the last operator, with how deep they nest. -/
structure ClassUnion where
  sets : List CharSet := []
  depths : List Nat := []

namespace ClassUnion

def push (u : ClassUnion) (set : CharSet) (depth : Nat) : ClassUnion :=
  ⟨set :: u.sets, depth :: u.depths⟩

def set (u : ClassUnion) : CharSet := unionAll u.sets.reverse

/-- A union of several items is one level more than its deepest item. -/
def depth (u : ClassUnion) : Nat :=
  match u.depths with
  | [] => 0
  | [d] => d
  | ds => ds.foldl max 0 + 1

end ClassUnion

/-- A set operator between the parts of a class. -/
inductive ClassOp where
  | inter
  | diff
  | symmDiff

/-- What stands before an operator that waits for its right side. -/
structure PendingOp where
  op : ClassOp
  left : CharSet
  depth : Nat

/-- Operators take what stands before and behind them, from the left, all with equal strength. -/
def applyPending (flags : Flags) (pending : Option PendingOp) (right : ClassUnion) : CharSet × Nat :=
  match pending with
  | none => (right.set, right.depth)
  | some p =>
    let a := withCase flags p.left
    let b := withCase flags right.set
    let set := match p.op with
      | .inter => CharSet.inter a b
      | .diff => CharSet.diff a b
      | .symmDiff => CharSet.symmDiff a b
    (set, max p.depth right.depth + 1)

mutual

/-- Reads a class behind its opening bracket.  Hyphens in front, and a closing bracket in front, are
members. -/
def readClass : (budget : Nat) → Flags → List Char → Option (CharSet × Nat × List Char)
  | 0, _, _ => none
  | budget + 1, flags, cs => do
    let cs := skip flags.verbose cs
    let (negated, cs) := match cs with
      | '^' :: rest => (true, skip flags.verbose rest)
      | cs => (false, cs)
    let hyphens := leadingHyphens flags.verbose (cs.length + 1) cs
    let start : ClassUnion := (List.range hyphens.1).foldl (fun u _ => u.push (single '-') 0) {}
    let (start, cs) := match hyphens.1, hyphens.2 with
      | 0, ']' :: rest => (start.push (single ']') 0, skip flags.verbose rest)
      | _, cs => (start, cs)
    if cs.isEmpty then none
    let (set, depth, rest) ← readClassBody budget flags none start cs
    let set ← checkedSet? flags (negatedIf negated (withCase flags set))
    return (set, depth + 1, rest)

/-- Reads the items and operators of a class up to its closing bracket. -/
def readClassBody : (budget : Nat) → Flags → Option PendingOp → ClassUnion → List Char →
    Option (CharSet × Nat × List Char)
  | 0, _, _, _, _ => none
  | budget + 1, flags, pending, u, cs =>
    let operator (op : ClassOp) (rest : List Char) :=
      let (left, depth) := applyPending flags pending u
      readClassBody budget flags (some ⟨op, left, depth⟩) {} rest
    match skip flags.verbose cs with
    | [] => none
    | ']' :: rest =>
      let (set, depth) := applyPending flags pending u
      some (set, depth, rest)
    | '[' :: rest =>
      match readPosix rest with
      | some (set, negated, rest) => do
        let set ← checkedSet? flags (negatedIf negated (withCase flags set))
        readClassBody budget flags pending (u.push set 0) rest
      | none => do
        let (set, depth, rest) ← readClass budget flags rest
        readClassBody budget flags pending (u.push set depth) rest
    | '&' :: '&' :: rest => operator .inter rest
    | '-' :: '-' :: rest => operator .diff rest
    | '~' :: '~' :: rest => operator .symmDiff rest
    | cs => do
      let (set, rest) ← readClassItem flags cs
      readClassBody budget flags pending (u.push set 0) rest

/-- The number of hyphens in front, and what follows them. -/
def leadingHyphens (verbose : Bool) : (budget : Nat) → List Char → Nat × List Char
  | 0, cs => (0, cs)
  | budget + 1, '-' :: rest =>
    let (n, rest) := leadingHyphens verbose budget (skip verbose rest)
    (n + 1, rest)
  | _ + 1, cs => (0, cs)

end

end JsonSchema.Regex
