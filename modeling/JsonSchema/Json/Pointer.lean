import JsonSchema.Json.Basic
import JsonSchema.Text.Digits

/-!
# JSON pointers

A pointer is a list of tokens, each written after a slash with `~` as `~0` and `/` as `~1`.
`Pointer.render` writes tokens and `Pointer.parse?` reads them; `Pointer.follow?` leads from a value
to the part that the tokens name.
-/

set_option autoImplicit false

namespace JsonSchema

/-- The text of a token inside a pointer. -/
def escapeToken (token : String) : String :=
  String.ofList (token.toList.flatMap fun c =>
    if c = '~' then ['~', '0'] else if c = '/' then ['~', '1'] else [c])

/-- The token that a text between two slashes stands for: `~` needs `0` or `1` behind it. -/
def unescapeToken? : List Char → Option (List Char)
  | [] => some []
  | '~' :: '0' :: rest => (unescapeToken? rest).map ('~' :: ·)
  | '~' :: '1' :: rest => (unescapeToken? rest).map ('/' :: ·)
  | c :: rest => if c = '~' then none else (unescapeToken? rest).map (c :: ·)

namespace Pointer

/-- The text of a pointer. -/
def render (tokens : List String) : String := String.join (tokens.map fun t => "/" ++ escapeToken t)

/-- The tokens of a pointer: none of the empty text, else what stands behind each slash. -/
def parse? (pointer : String) : Option (List String) :=
  match pointer.toList with
  | [] => some []
  | '/' :: rest => (splitAtChar '/' rest).mapM fun piece => (unescapeToken? piece).map String.ofList
  | _ => none

/-- A decimal numeral below `2 ^ 64`; a plus sign may stand before it. -/
def index? (token : String) : Option Nat :=
  let digits := match token.toList with
    | '+' :: rest => rest
    | cs => cs
  if digits.isEmpty || !digits.all Char.isDigit then none
  else
    let n := natOfDigits digits
    if n < UInt64.size then some n else none

/-- The member or element that a token names; a numeral of several digits may not start with zero. -/
def child? (v : Json) (token : String) : Option Json :=
  match v with
  | .obj members => members.lookup token
  | .arr items =>
    match token.toList with
    | '0' :: _ :: _ => none
    | _ => (index? token).bind (items[·]?)
  | _ => none

/-- The part of a value that the tokens lead to, one step each. -/
def follow? (v : Json) : List String → Option Json
  | [] => some v
  | token :: rest => (child? v token).bind (follow? · rest)

end Pointer

end JsonSchema
