import JsonSchema.Text.Digits

/-!
# Percent encoding

A byte is written as a percent sign and two hexadecimal digits.  Encoding works on the UTF-8 bytes of
characters; decoding leaves a percent sign alone that two such digits do not follow.
-/

set_option autoImplicit false

namespace JsonSchema.Percent

def upperHex (n : Nat) : Char := (Nat.digitChar (n % 16)).toUpper

def encodeByte (b : UInt8) : List Char := ['%', upperHex (b.toNat / 16), upperHex b.toNat]

/-- Writes a character, encoded if it is not ASCII or if the set says so. -/
def encodeChar (reserved : Char → Bool) (c : Char) : List Char :=
  if c.toNat < 0x80 && !reserved c then [c]
  else (String.singleton c).toUTF8.toList.flatMap encodeByte

def encode (reserved : Char → Bool) (cs : List Char) : List Char := cs.flatMap (encodeChar reserved)

/-- The bytes that a text stands for. -/
def decodeBytes : List Char → List UInt8
  | [] => []
  | '%' :: a :: b :: rest =>
    match hexValue? a, hexValue? b with
    | some high, some low => UInt8.ofNat (high * 16 + low) :: decodeBytes rest
    | _, _ => '%'.toNat.toUInt8 :: decodeBytes (a :: b :: rest)
  | c :: rest => (String.singleton c).toUTF8.toList ++ decodeBytes rest

/-- The text that the bytes spell, if they are UTF-8. -/
def decode? (cs : List Char) : Option (List Char) :=
  if cs.contains '%' then (String.fromUTF8? ⟨(decodeBytes cs).toArray⟩).map String.toList
  else some cs

end JsonSchema.Percent
