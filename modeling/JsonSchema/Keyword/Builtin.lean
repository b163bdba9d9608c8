import JsonSchema.DataType

/-!
# The keywords of draft-07

Every keyword with a rule of its own, in groups by the type of data that it concerns.
`BuiltinKeyword.groups` lists the groups, and the keywords in them, in the order in which they are
evaluated.
-/

set_option autoImplicit false

namespace JsonSchema

inductive BuiltinKeyword where
  | maximum
  | minimum
  | exclusiveMaximum
  | exclusiveMinimum
  | multipleOf
  | format
  | maxLength
  | minLength
  | pattern
  | maxItems
  | minItems
  | items
  | contains
  | uniqueItems
  | maxProperties
  | minProperties
  | required
  | dependencies
  | propertyNames
  | properties
  | ref
  | const
  | enum
  | not
  | anyOf
  | oneOf
  | allOf
  | ifThenElse
deriving DecidableEq

namespace BuiltinKeyword

def name : BuiltinKeyword → String
  | maximum => "maximum"
  | minimum => "minimum"
  | exclusiveMaximum => "exclusiveMaximum"
  | exclusiveMinimum => "exclusiveMinimum"
  | multipleOf => "multipleOf"
  | format => "format"
  | maxLength => "maxLength"
  | minLength => "minLength"
  | pattern => "pattern"
  | maxItems => "maxItems"
  | minItems => "minItems"
  | items => "items"
  | contains => "contains"
  | uniqueItems => "uniqueItems"
  | maxProperties => "maxProperties"
  | minProperties => "minProperties"
  | required => "required"
  | dependencies => "dependencies"
  | propertyNames => "propertyNames"
  | properties => "properties"
  | ref => "$ref"
  | const => "const"
  | enum => "enum"
  | not => "not"
  | anyOf => "anyOf"
  | oneOf => "oneOf"
  | allOf => "allOf"
  | ifThenElse => "if"

/-- The types that the keyword's value may have; an empty list allows any. -/
def schemaTypes : BuiltinKeyword → List DataType
  | maximum | minimum | exclusiveMaximum | exclusiveMinimum | multipleOf => [.number]
  | maxLength | minLength | maxItems | minItems | maxProperties | minProperties => [.integer]
  | format | pattern | ref => [.string]
  | uniqueItems => [.boolean]
  | required | enum | anyOf | oneOf | allOf => [.array]
  | dependencies | properties => [.object]
  | contains | propertyNames | not | ifThenElse => [.object, .boolean]
  | items => [.object, .boolean, .array]
  | const => []

/-- Whether the keyword's value may be taken from the data. -/
def allowsData : BuiltinKeyword → Bool
  | maximum | minimum | exclusiveMaximum | exclusiveMinimum | multipleOf | maxLength | minLength
  | pattern | maxItems | minItems | uniqueItems | maxProperties | minProperties | const | enum => true
  | _ => false

/-- The keywords that have no rule because this one takes care of them. -/
def implements : BuiltinKeyword → List String
  | items => ["additionalItems"]
  | properties => ["additionalProperties", "patternProperties"]
  | ifThenElse => ["then", "else"]
  | _ => []

/-- The groups of keywords by the type of data that they concern; the last concern all data. -/
def groups : List (Option DataType × List BuiltinKeyword) := [
  (some .number, [maximum, minimum, exclusiveMaximum, exclusiveMinimum, multipleOf, format]),
  (some .string, [maxLength, minLength, pattern, format]),
  (some .array, [maxItems, minItems, items, contains, uniqueItems]),
  (some .object, [maxProperties, minProperties, required, dependencies, propertyNames, properties]),
  (none, [ref, const, enum, not, anyOf, oneOf, allOf, ifThenElse])]

end BuiltinKeyword

/-- Keywords that every schema is read for and that no registry can lose. -/
def engineKeywords : List String := ["type", "$comment"]

/-- Known keywords that check nothing by themselves. -/
def nonValidatingKeywords : List String :=
  ["$schema", "$id", "id", "$data", "$async", "title", "description", "default", "definitions",
    "examples", "readOnly", "writeOnly", "contentMediaType", "contentEncoding"]

end JsonSchema
