import JsonSchema.Json.Basic

/-!
# The types that a schema names

`DataType.accepts` says which values are instances of a type.  A whole number is an instance of both
`number` and `integer`, so the two admit each other's keywords (`DataType.admits`).
-/

set_option autoImplicit false

namespace JsonSchema

inductive DataType where
  | number
  | integer
  | string
  | array
  | object
  | boolean
  | null
deriving DecidableEq, Inhabited

namespace DataType

/-- Every type, in the order in which types are listed. -/
def all : List DataType := [number, integer, string, array, object, boolean, null]

def name : DataType → String
  | number => "number"
  | integer => "integer"
  | string => "string"
  | array => "array"
  | object => "object"
  | boolean => "boolean"
  | null => "null"

def ofName? (name : String) : Option DataType := all.find? (·.name == name)

/-- Whether a value is an instance of the type. -/
def accepts : DataType → Json → Bool
  | number, .num _ => true
  | integer, .num n => n.isWhole
  | string, .str _ => true
  | array, .arr _ => true
  | object, .obj _ => true
  | boolean, .bool _ => true
  | null, .null => true
  | _, _ => false

/-- Whether keywords for `group` can concern instances of the declared type. -/
def admits (declared group : DataType) : Bool :=
  declared == group || (declared == number && group == integer) ||
    (declared == integer && group == number)

/-- The names, joined by commas. -/
def listText (types : List DataType) : String := ",".intercalate (types.map name)

/-- The value of `type`: a type name or a non-empty array of them. -/
def ofJson? : Json → Option (List DataType)
  | .str s => (ofName? s).map ([·])
  | .arr (first :: rest) =>
    (first :: rest).mapM fun
      | .str s => ofName? s
      | _ => none
  | _ => none

end DataType

/-- Whether a value is an instance of one of the types; an empty list asks for nothing. -/
def DataType.anyAccepts (expected : List DataType) (v : Json) : Bool :=
  expected.isEmpty || expected.any (·.accepts v)

end JsonSchema
