import JsonSchema.Json.Basic

/-!
# Strict mode

Strict mode closes object schemas: one that says nothing about additional properties gets
`additionalProperties: false` as its last member.  `Json.closed` does so for a schema and for every
schema inside it.
-/

set_option autoImplicit false

namespace JsonSchema

/-- Keywords whose values give schemas to names. -/
def schemaMapKeywords : List String := ["properties", "patternProperties", "definitions", "dependencies"]

/-- Keywords whose values are schemas or arrays of schemas. -/
def schemaKeywords : List String :=
  ["additionalProperties", "propertyNames", "items", "additionalItems", "contains", "not", "if", "then",
    "else", "allOf", "anyOf", "oneOf"]

/-- Keywords that only object schemas have. -/
def objectKeywords : List String :=
  ["properties", "patternProperties", "required", "dependencies", "propertyNames", "minProperties",
    "maxProperties"]

/-- Whether a schema is about objects: by its `type`, or without a type name there by its keywords. -/
def isObjectSchema (members : List (String × Json)) : Bool :=
  match members.lookup "type" with
  | some (.str name) => name == "object"
  | some (.arr names) => names.any (·.str? == some "object")
  | _ => objectKeywords.any fun keyword => (members.lookup keyword).isSome

/-- Whether strict mode adds a member to a schema. -/
def isOpenObjectSchema (members : List (String × Json)) : Bool :=
  isObjectSchema members && (members.lookup "additionalProperties").isNone

mutual

/-- A schema, or each schema of an array, closed with all schemas inside. -/
def Json.closed : Json → Json
  | .obj members =>
    .obj (Json.closedMembers members ++
      if isOpenObjectSchema members then [("additionalProperties", .bool false)] else [])
  | .arr items => .arr (Json.closedItems items)
  | v => v

def Json.closedItems : List Json → List Json
  | [] => []
  | v :: rest => v.closed :: Json.closedItems rest

/-- The members of a schema, with the schemas among them closed. -/
def Json.closedMembers : List (String × Json) → List (String × Json)
  | [] => []
  | (name, v) :: rest =>
    let v :=
      if schemaMapKeywords.contains name then v.closedValues
      else if schemaKeywords.contains name then v.closed
      else v
    (name, v) :: Json.closedMembers rest

/-- An object with each of its values closed. -/
def Json.closedValues : Json → Json
  | .obj members => .obj (Json.closedEach members)
  | v => v

def Json.closedEach : List (String × Json) → List (String × Json)
  | [] => []
  | (name, v) :: rest => (name, v.closed) :: Json.closedEach rest

end

end JsonSchema
