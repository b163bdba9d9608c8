import JsonSchema.Json.Text
import JsonSchema.Options
import JsonSchema.Program.Node
import JsonSchema.SchemaError

/-!
# Definitions of keywords

A definition is what an author says about a keyword of their own.  Exactly one of its four forms of
logic (`code`, `validate`, `compile`, `expand`) should be given; `KeywordDefinition.violations` says
what is wrong with a definition as far as `KeywordDefinition.metaSchema` cannot say it.
-/

set_option autoImplicit false

namespace JsonSchema

/-- Whether a name can be that of a keyword: an ASCII letter, `_` or `$`, and then any of these, digits
and hyphens. -/
def isIdentifier (name : String) : Bool :=
  match name.toList with
  | [] => false
  | first :: rest =>
    (first.isAlpha || first == '_' || first == '$') &&
      rest.all fun c => c.isAlphanum || c == '_' || c == '$' || c == '-'

/-- The rule of `isIdentifier` as it is told to users. -/
def identifierPattern : String := "(?i)^[a-z_$][a-z0-9_$-]*$"

/-- The violation of the rule for the names of keywords. -/
def notAnIdentifier (name : String) : String := quoted name ++ " is not a valid keyword identifier"

/-- What the code of a keyword sees of the place where the keyword stands. -/
structure KeywordView where
  keyword : String
  /-- The keyword's value; `null` if only a keyword that this one implements stands there. -/
  schema : Json
  /-- The schema that the keyword belongs to. -/
  parent : List (String × Json)
  schemaPath : String
  /-- The way to the data, with `{index}` for any element and `{key}` for any member. -/
  dataPath : String
  dataLevel : Nat
  /-- Whether the value is to be taken from the data. -/
  isData : Bool
  options : Options

/-- What the code of a keyword contributes. -/
inductive CodeAction where
  /-- Sets the parameters of the violations of all later checks. -/
  | setParams (params : Json)
  | fail (condition : (data schema : Json) → Bool)
  | ok (condition : (data schema : Json) → Bool)

structure KeywordDefinition where
  /-- The names that share the definition. -/
  keywords : List String := []
  /-- The types of data that the keyword concerns; none stands for all. -/
  types : List DataType := []
  /-- The types that a value written in the schema may have; none stands for all. -/
  schemaTypes : List DataType := []
  /-- Whether the value may be taken from the data. -/
  allowsData : Bool := false
  /-- A schema for the values written in schemas. -/
  metaSchema : Option Json := none
  /-- Other keywords that this one takes care of. -/
  implements : List String := []
  /-- Checks that depend on the place. -/
  code : Option (KeywordView → Except SchemaError (List CodeAction)) := none
  /-- Whether data is valid for a value of the keyword. -/
  validate : Option ((schema data : Json) → Bool) := none
  /-- A check made from the value and the schema around it, or why there is none. -/
  compile : Option (Json → List (String × Json) → Except String (Json → Bool)) := none
  /-- A schema that stands for the value in the schema around it. -/
  expand : Option (Json → List (String × Json) → Json) := none
  error : Option ErrorText := none
  isAsync : Bool := false
  /-- If false, `validate` gets `null` for the value. -/
  schema : Option Bool := none
  /-- The result, whatever the logic says. -/
  valid : Option Bool := none

/-- The wording of a keyword that has no other. -/
def ErrorText.ofKeyword (keyword : String) : ErrorText where
  message _ _ := s!"should pass \"{keyword}\" keyword validation"
  params _ _ := .obj [("keyword", keyword)]

namespace KeywordDefinition

def errorText (d : KeywordDefinition) (keyword : String) : ErrorText :=
  d.error.getD (.ofKeyword keyword)

/-- How many forms of logic are given. -/
def logicCount (d : KeywordDefinition) : Nat :=
  [d.code.isSome, d.validate.isSome, d.compile.isSome, d.expand.isSome].countP (· = true)

/-- One name by itself, any other number of them as an array. -/
def namesToJson : List String → Json
  | [single] => single
  | names => .arr (names.map Json.str)

/-- A member that is written only under a condition. -/
private def memberIf (present : Bool) (name : String) (value : Json) : List (String × Json) :=
  if present then [(name, value)] else []

/-- The definition as a value; of a function only its presence can be told. -/
def toJson (d : KeywordDefinition) : Json :=
  .obj <|
    [("keyword", namesToJson d.keywords)] ++
    memberIf (!d.types.isEmpty) "type" (namesToJson (d.types.map DataType.name)) ++
    memberIf (!d.schemaTypes.isEmpty) "schemaType" (namesToJson (d.schemaTypes.map DataType.name)) ++
    memberIf d.allowsData "$data" true ++
    (d.metaSchema.map fun m => ("metaSchema", m)).toList ++
    memberIf (!d.implements.isEmpty) "implements" (.arr (d.implements.map Json.str)) ++
    memberIf d.code.isSome "code" true ++
    memberIf d.validate.isSome "validate" true ++
    memberIf d.compile.isSome "compile" true ++
    memberIf d.expand.isSome "macro" true ++
    memberIf d.error.isSome "error" true ++
    memberIf d.isAsync "async" true ++
    (d.schema.map fun b => ("schema", Json.bool b)).toList ++
    (d.valid.map fun b => ("valid", Json.bool b)).toList

/-- The schema of the values that definitions have as values. -/
def metaSchemaOfDefinitions : Json :=
  let ofType (name : String) : Json := .obj [("type", name)]
  let ofTrue : Json := .obj [("const", true)]
  let reference (name : String) : Json := .obj [("$ref", .str ("#/definitions/" ++ name))]
  let needs (name : String) : Json := .obj [("required", .arr [name])]
  .obj [
    ("definitions", .obj [
      ("simpleTypes", .obj [
        ("enum", .arr ["array", "boolean", "integer", "null", "number", "object", "string"])]),
      ("typeList", .obj [
        ("anyOf", .arr [
          reference "simpleTypes",
          .obj [("type", "array"), ("items", reference "simpleTypes"), ("minItems", (1 : Nat)),
            ("uniqueItems", true)]])])]),
    ("type", "object"),
    ("required", .arr ["keyword"]),
    ("dependencies", .obj [
      ("schema", .arr ["validate"]),
      ("valid", .obj [("not", needs "macro")]),
      ("$data", .obj [("anyOf", .arr [needs "code", needs "validate"])])]),
    ("properties", .obj [
      ("keyword", .obj [
        ("anyOf", .arr [
          ofType "string",
          .obj [("type", "array"), ("items", ofType "string"), ("minItems", (1 : Nat))]])]),
      ("type", reference "typeList"),
      ("schemaType", reference "typeList"),
      ("schema", ofType "boolean"),
      ("metaSchema", ofType "object"),
      ("implements", .obj [("type", "array"), ("items", ofType "string")]),
      ("valid", ofType "boolean"),
      ("$data", ofType "boolean"),
      ("async", ofType "boolean"),
      ("code", ofTrue),
      ("validate", ofTrue),
      ("compile", ofTrue),
      ("macro", ofTrue),
      ("error", ofTrue)])]

/-- Whether a definition gives its logic in one form. -/
def logicViolations (d : KeywordDefinition) : List Violation :=
  match d.logicCount with
  | 0 =>
    [⟨"logic", "", "#", .obj [("allowed", .arr ["code", "validate", "compile", "macro"])],
      "should define one of code, validate, compile or macro"⟩]
  | 1 => []
  | count =>
    [⟨"logic", "", "#", .obj [("count", count)],
      "should define only one of code, validate, compile or macro"⟩]

def asyncViolations (d : KeywordDefinition) : List Violation :=
  if d.isAsync then [⟨"async", "/async", "#", .obj [], "asynchronous keywords are not supported"⟩]
  else []

/-- The implemented keywords whose names cannot be those of keywords. -/
def implementsViolations (d : KeywordDefinition) : List Violation :=
  d.implements.zipIdx.filterMap fun (name, i) =>
    if isIdentifier name then none
    else some ⟨"implements", s!"/implements/{i}", "#", .obj [("keyword", name)], notAnIdentifier name⟩

/-- The first name of the definition that cannot be that of a keyword. -/
def nameViolations (d : KeywordDefinition) : List Violation :=
  match d.keywords.find? (!isIdentifier ·) with
  | some name =>
    [⟨"pattern", "/keyword", "#/properties/keyword", .obj [("pattern", identifierPattern)],
      notAnIdentifier name⟩]
  | none => []

/-- What is wrong with a definition beside what its meta-schema says. -/
def violations (d : KeywordDefinition) : List Violation :=
  d.logicViolations ++ d.asyncViolations ++ d.implementsViolations ++ d.nameViolations

end KeywordDefinition

end JsonSchema
