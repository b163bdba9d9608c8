import JsonSchema.Format.Clock
import JsonSchema.Json.Basic
import JsonSchema.Table
import JsonSchema.Uri.Parser

/-!
# Formats

A format is a check on strings or on numbers and accepts everything else.  `Formats` holds the formats
of a compiler by name; `Formats.builtin` holds those of draft-07.
-/

set_option autoImplicit false

namespace JsonSchema

inductive Format where
  | pattern (r : Regex)
  | string (check : String → Bool)
  | number (check : Binary64 → Bool)

namespace Format

def accepts : Format → Json → Bool
  | pattern r, .str s => r.isMatch s
  | string check, .str s => check s
  | number check, .num n => check n.toBinary64
  | _, _ => true

/-- Whether a pattern is one and matches. -/
def isMatchOf (r : Option Regex) (s : String) : Bool := r.any (·.isMatch s)

/-! ## The formats of draft-07 -/

def emailPattern : Option Regex :=
  Regex.parse? ("(?i)^[a-z0-9!#$%&'*+/=?^_`\x7b|\x7d~-]+(?:\\.[a-z0-9!#$%&'*+/=?^_`\x7b|\x7d~-]+)*" ++
    "@(?:[a-z0-9](?:[a-z0-9-]*[a-z0-9])?\\.)+[a-z0-9](?:[a-z0-9-]*[a-z0-9])?$")

def isEmail (s : String) : Bool := isMatchOf emailPattern s

/-- The form of one part of a host name. -/
def labelPattern : Option Regex := Regex.parse? "(?i)^[a-z0-9](?:[a-z0-9-]\x7b0,61\x7d[a-z0-9])?$"

/-- Labels with points between them, of at most 253 bytes; one more point may stand at the end. -/
def isHostname (s : String) : Bool :=
  let cs := match s.toList.reverse with
    | '.' :: rest => rest.reverse
    | _ => s.toList
  !cs.isEmpty && decide ((String.ofList cs).utf8ByteSize ≤ 253) &&
    (splitAtChar '.' cs).all fun label => isMatchOf labelPattern (String.ofList label)

def isIpv4 (s : String) : Bool := (Ipv4.parse? s.toList).isSome

def isIpv6 (s : String) : Bool := (Ipv6.parse? s.toList).isSome

def isUri (s : String) : Bool := (Uri.parse s).isOk

def uuidPattern : Option Regex :=
  Regex.parse? ("(?i)^(?:urn:uuid:)?[0-9a-f]\x7b8\x7d-(?:[0-9a-f]\x7b4\x7d-)\x7b3\x7d" ++
    "[0-9a-f]\x7b12\x7d$")

def isUuid (s : String) : Bool := isMatchOf uuidPattern s

def isRegex (s : String) : Bool := (Regex.parse? s).isSome

def jsonPointerPattern : Option Regex := Regex.parse? "^(?:/(?:[^~/]|~0|~1)*)*$"

def isJsonPointer (s : String) : Bool := isMatchOf jsonPointerPattern s

def relativeJsonPointerPattern : Option Regex :=
  Regex.parse? "^(?:0|[1-9][0-9]*)(?:#|(?:/(?:[^~/]|~0|~1)*)*)$"

def isRelativeJsonPointer (s : String) : Bool := isMatchOf relativeJsonPointerPattern s

end Format

/-- Formats by name. -/
abbrev Formats := Table String Format

namespace Formats

def builtin : Formats := .ofList [
  ("date", .string Clock.isDate),
  ("time", .string Clock.isTime),
  ("date-time", .string Clock.isDateTime),
  ("email", .string Format.isEmail),
  ("hostname", .string Format.isHostname),
  ("ipv4", .string Format.isIpv4),
  ("ipv6", .string Format.isIpv6),
  ("uri", .string Format.isUri),
  ("uuid", .string Format.isUuid),
  ("regex", .string Format.isRegex),
  ("json-pointer", .string Format.isJsonPointer),
  ("relative-json-pointer", .string Format.isRelativeJsonPointer)]

end Formats

end JsonSchema
