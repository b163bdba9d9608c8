import JsonSchema.Regex.Class
import JsonSchema.Regex.Size

/-!
# Reading regular expressions

`Regex.parse?` reads an expression in the syntax without look-around and back-references: `$` is the
very end unless lines are asked for, classes and case are those of Unicode unless switched off.

The readers of groups call each other with a budget of one more than the characters there are; each
call follows the reading of a character.
-/

set_option autoImplicit false

namespace JsonSchema.Regex

open Unicode CharSet

/-- How deep an expression may nest. -/
def maxDepth : Nat := 250

/-! ## Flags -/

/-- Sets the flag of a letter. -/
def Flags.set? (f : Flags) (letter : Char) (on : Bool) : Option Flags :=
  match letter with
  | 'i' => some { f with ignoreCase := on }
  | 'm' => some { f with multiLine := on }
  | 's' => some { f with dotAll := on }
  | 'U' => some { f with swapGreed := on }
  | 'u' => some { f with unicode := on }
  | 'R' => some { f with crlf := on }
  | 'x' => some { f with verbose := on }
  | _ => none

/-- Reads flag letters up to a colon or a closing parenthesis.  No letter may come twice, nor the
hyphen from which on flags are turned off, nor may that stand last. -/
def readFlags (seen : List Char) (flags : Flags) : List Char → Option (Flags × List Char × List Char)
  | [] => none
  | c :: rest =>
    if c = ':' ∨ c = ')' then
      if seen.head? = some '-' then none else some (flags, seen, c :: rest)
    else if seen.contains c then none
    else if c = '-' then readFlags (c :: seen) flags rest
    else match flags.set? c (!seen.contains '-') with
      | some flags => readFlags (c :: seen) flags rest
      | none => none

/-- Reads the name of a group up to its closing angle. -/
def readGroupName (cs : List Char) : Option (List Char × List Char) :=
  let name := cs.takeWhile (· ≠ '>')
  let isFirst (c : Char) : Bool := c == '_' || alphabetic.contains c.toNat
  let isLater (c : Char) : Bool :=
    c == '_' || c == '.' || c == '[' || c == ']' || alphabetic.contains c.toNat ||
      number.contains c.toNat
  match name, cs.dropWhile (· ≠ '>') with
  | first :: later, _ :: rest =>
    if isFirst first && later.all isLater then some (name, rest) else none
  | _, _ => none

/-! ## Parts of an expression -/

/-- A part of an expression with how deep it nests.  A change of flags matches nothing by itself and
cannot be repeated. -/
structure Part where
  regex : Regex
  depth : Nat := 0
  isFlags : Bool := false

/-- One after the other; the parts are in reverse. -/
def Part.concat (parts : List Part) : Part :=
  match parts with
  | [] => { regex := .empty }
  | [p] => { p with isFlags := false }
  | last :: before =>
    { regex := before.foldl (fun r p => .seq p.regex r) last.regex
      depth := (last :: before).foldl (fun d p => max d p.depth) 0 + 1 }

/-- One or the other; the branches are in reverse. -/
def Part.alternation (branches : List Part) : Part :=
  match branches with
  | [] => { regex := .empty }
  | [p] => p
  | last :: before =>
    { regex := before.foldl (fun r p => .alt p.regex r) last.regex
      depth := (last :: before).foldl (fun d p => max d p.depth) 0 + 1 }

/-- A literal character. -/
def literal (flags : Flags) (c : Char) : Regex := .chars (withCase flags (single c))

def word (flags : Flags) : CharSet := if flags.unicode then wordChars else asciiWordChars

def Primitive.regex? (flags : Flags) : Primitive → Option Regex
  | .literal c => some (Regex.literal flags c)
  | .byte n => if flags.unicode || n < 0x80 then some (Regex.literal flags (Char.ofNat n)) else none
  | .property set negated =>
    if flags.unicode then some (.chars (negatedIf negated (withCase flags set))) else none
  | .perl name negated =>
    (checkedSet? flags (negatedIf negated (perlSet flags name))).map .chars
  | .assertion name =>
    match name with
    | "A" => some (.look .start)
    | "z" => some (.look .finish)
    | "b" => some (.look (.wordBoundary (word flags)))
    | "B" => some (.look (.notWordBoundary (word flags)))
    | "start" => some (.look (.wordStart (word flags)))
    | "end" => some (.look (.wordFinish (word flags)))
    | "start-half" => some (.look (.wordStartHalf (word flags)))
    | _ => some (.look (.wordFinishHalf (word flags)))

/-- The dot: any character, but without `s` no end of a line. -/
def dot? (flags : Flags) : Option Regex :=
  if !flags.unicode then none
  else if flags.dotAll then some (.chars full)
  else if flags.crlf then some (.chars (compl (ofChars "\r\n")))
  else some (.chars (compl (ofChars "\n")))

def caret (flags : Flags) : Regex :=
  .look (if !flags.multiLine then .start else if flags.crlf then .lineStartCrlf else .lineStart)

def dollar (flags : Flags) : Regex :=
  .look (if !flags.multiLine then .finish else if flags.crlf then .lineFinishCrlf else .lineFinish)

/-- Reads a number of at most 32 bits with blanks around it. -/
def readCount (verbose : Bool) (cs : List Char) : Option (Nat × List Char) :=
  let rec digits (budget : Nat) (cs : List Char) : List Char × List Char :=
    match budget, cs with
    | budget + 1, c :: rest =>
      if c.isDigit then
        let (ds, rest) := digits budget (skip verbose rest)
        (c :: ds, rest)
      else ([], c :: rest)
    | _, cs => ([], cs)
  let cs := cs.dropWhile isBlank
  match digits (cs.length + 1) cs with
  | ([], _) => none
  | (ds, rest) =>
    let n := natOfDigits ds
    if n < UInt32.size then some (n, skip verbose (rest.dropWhile isBlank)) else none

/-- Reads the bounds of a counted repetition behind its opening brace. -/
def readBounds (verbose : Bool) (cs : List Char) : Option (Nat × Option Nat × List Char) := do
  let (least, rest) ← readCount verbose (skip verbose cs)
  match rest with
  | '}' :: rest => return (least, some least, rest)
  | ',' :: rest =>
    match skip verbose rest with
    | '}' :: rest => return (least, none, rest)
    | rest =>
      let (most, rest) ← readCount verbose rest
      match rest with
      | '}' :: rest => if least ≤ most then return (least, some most, rest) else none
      | _ => none
  | _ => none

/-- Repeats the last part; there must be one, and no change of flags. -/
def repeatLast (parts : List Part) (least : Nat) (most : Option Nat) : Option (List Part) :=
  match parts with
  | p :: before =>
    if p.isFlags then none
    else some ({ regex := .repeat p.regex least most, depth := p.depth + 1 } :: before)
  | [] => none

/-- Leaves out a question mark; a lazy repetition finds a match where a greedy one does. -/
def dropLazy : List Char → List Char
  | '?' :: rest => rest
  | cs => cs

/-! ## Groups -/

/-- The group that an opening parenthesis begins. -/
inductive GroupStart where
  | flags (flags : Flags)
  | group (flags : Flags) (name : Option (List Char))

/-- Reads what follows an opening parenthesis.  Look-around is refused. -/
def readGroupStart (flags : Flags) (cs : List Char) : Option (GroupStart × List Char) :=
  match skip flags.verbose cs with
  | '?' :: '=' :: _ | '?' :: '!' :: _ | '?' :: '<' :: '=' :: _ | '?' :: '<' :: '!' :: _ => none
  | '?' :: 'P' :: '<' :: rest | '?' :: '<' :: rest => do
    let (name, rest) ← readGroupName rest
    return (.group flags (some name), rest)
  | '?' :: rest => do
    let (inner, seen, rest) ← readFlags [] flags rest
    match rest with
    | ')' :: rest => if seen.isEmpty then none else return (.flags inner, rest)
    | _ :: rest => return (.group inner none, rest)
    | [] => none
  | rest => some (.group flags none, rest)

/-- What a group holds, the names given so far, and what is left from its closing parenthesis on. -/
structure GroupBody where
  part : Part
  names : List (List Char)
  rest : List Char

/-- Reads the branches of a group up to its closing parenthesis or the end.  `branches` and `parts`,
read before, are in reverse.  Flags last to the end of the group, across its branches. -/
def readGroup : (budget : Nat) → Flags → (branches parts : List Part) → List (List Char) →
    List Char → Option GroupBody
  | 0, _, _, _, _, _ => none
  | budget + 1, flags, branches, parts, names, cs =>
    match skip flags.verbose cs with
    | [] => some ⟨Part.alternation (Part.concat parts :: branches), names, []⟩
    | ')' :: rest => some ⟨Part.alternation (Part.concat parts :: branches), names, ')' :: rest⟩
    | '|' :: rest => readGroup budget flags (Part.concat parts :: branches) [] names rest
    | '(' :: rest => do
      match ← readGroupStart flags rest with
      | (.flags inner, rest) =>
        readGroup budget inner branches ({ regex := .empty, isFlags := true } :: parts) names rest
      | (.group inner name, rest) =>
        let names ← match name with
          | some name => if names.contains name then none else some (name :: names)
          | none => some names
        let body ← readGroup budget inner [] [] names rest
        match body.rest with
        | ')' :: rest =>
          let part : Part := { regex := body.part.regex, depth := body.part.depth + 1 }
          readGroup budget flags branches (part :: parts) body.names rest
        | _ => none
    | '[' :: rest => do
      let (set, depth, rest) ← readClass (2 * rest.length + 2) flags rest
      readGroup budget flags branches ({ regex := .chars set, depth := depth } :: parts) names rest
    | '?' :: rest => do
      readGroup budget flags branches (← repeatLast parts 0 (some 1)) names (dropLazy rest)
    | '*' :: rest => do
      readGroup budget flags branches (← repeatLast parts 0 none) names (dropLazy rest)
    | '+' :: rest => do
      readGroup budget flags branches (← repeatLast parts 1 none) names (dropLazy rest)
    | '{' :: rest => do
      let (least, most, rest) ← readBounds flags.verbose rest
      let rest := dropLazy (skip flags.verbose rest)
      readGroup budget flags branches (← repeatLast parts least most) names rest
    | '.' :: rest => do
      readGroup budget flags branches ({ regex := ← dot? flags } :: parts) names rest
    | '^' :: rest => readGroup budget flags branches ({ regex := caret flags } :: parts) names rest
    | '$' :: rest => readGroup budget flags branches ({ regex := dollar flags } :: parts) names rest
    | '\\' :: rest => do
      let (primitive, rest) ← readEscape flags.verbose rest
      readGroup budget flags branches ({ regex := ← primitive.regex? flags } :: parts) names rest
    | c :: rest => readGroup budget flags branches ({ regex := literal flags c } :: parts) names rest

/-- The regular expression that a text denotes, if it is one. -/
def parse? (text : String) : Option Regex := do
  let cs := text.toList
  let body ← readGroup (cs.length + 1) {} [] [] [] cs
  let r := body.part.regex
  if body.rest.isEmpty && body.part.depth ≤ maxDepth && r.size ≤ maxSize then return r else none

end JsonSchema.Regex
