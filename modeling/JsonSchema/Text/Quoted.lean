import JsonSchema.Unicode.Properties

/-!
# Quoted text

A text in double quotes, for messages: quotes, backslashes and the common controls are escaped with a
backslash; other characters without a shape of their own are written by their code point.
-/

set_option autoImplicit false

namespace JsonSchema

open Unicode CharSet

/-- Characters without a shape: controls, separators but the space, and what no character is assigned
to; and those that only change the character before. -/
def shapeless : CharSet :=
  unionAll [table control, table format, table surrogate, table privateUse, unassigned,
    table lineSeparator, table paragraphSeparator, diff (table spaceSeparator) (single ' '),
    graphemeExtend]

def quotedChar (c : Char) : List Char :=
  match c with
  | '\x00' => ['\\', '0']
  | '\t' => ['\\', 't']
  | '\r' => ['\\', 'r']
  | '\n' => ['\\', 'n']
  | '"' => ['\\', '"']
  | '\\' => ['\\', '\\']
  | c =>
    if shapeless.contains c.toNat then '\\' :: 'u' :: '{' :: Nat.toDigits 16 c.toNat ++ ['}'] else [c]

/-- The text in quotes. -/
def quoted (s : String) : String := String.ofList ('"' :: s.toList.flatMap quotedChar ++ ['"'])

end JsonSchema
