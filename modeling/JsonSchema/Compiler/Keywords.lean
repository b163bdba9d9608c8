import JsonSchema.Compiler.Basic

/-!
# Adding and removing keywords

A definition is checked, unless the caller says otherwise, and then stands under one name or, in a
vocabulary, under each of its names.  A refused definition or vocabulary changes nothing.
-/

set_option autoImplicit false

namespace JsonSchema

/-- What a compiler knows of a keyword. -/
inductive KeywordInfo where
  | custom (definition : KeywordDefinition)
  | builtin
  | unknown

namespace KeywordInfo

def isKnown : KeywordInfo → Bool
  | unknown => false
  | _ => true

end KeywordInfo

/-- The schema of references into the data. -/
def dataReferenceSchema : Json :=
  let ofFormat (name : String) : Json := .obj [("format", name)]
  .obj [
    ("type", "object"),
    ("required", .arr ["$data"]),
    ("properties", .obj [
      ("$data", .obj [
        ("type", "string"),
        ("anyOf", .arr [ofFormat "relative-json-pointer", ofFormat "json-pointer"])])]),
    ("additionalProperties", false)]

/-- Checks definitions as values against their meta-schema. -/
def definitionValidator : Except SchemaError Validator :=
  compileSchema
    { registry := .withBuiltins, options := { allErrors := true }, formats := .builtin, cache := .empty }
    KeywordDefinition.metaSchemaOfDefinitions

/-- Everything that is wrong with a definition. -/
def definitionViolations (definition : KeywordDefinition) : Except SchemaError (List Violation) := do
  match (← definitionValidator).validate definition.toJson with
  | .valid => return definition.violations
  | .invalid violations => return violations ++ definition.violations
  | .endless => throw .tooDeep

/-- Refuses a definition that something is wrong with. -/
def validateDefinition (definition : KeywordDefinition) : Except SchemaError Unit := do
  let violations ← definitionViolations definition
  if !violations.isEmpty then
    throw (.invalidDefinition (",".intercalate definition.keywords) violations)

namespace Compiler

/-- The check of a keyword's values that its definition asks for, under a registry. -/
def metaValidator (c : Compiler) (registry : Registry) (definition : KeywordDefinition) :
    Except SchemaError (Option Validator) :=
  match definition.metaSchema with
  | none => .ok none
  | some schema =>
    let schema :=
      if definition.allowsData && c.options.data then
        .obj [("anyOf", .arr [schema, dataReferenceSchema])]
      else schema
    (c.compileUnder registry schema).map some

/-- The registry with a custom keyword added. -/
def register (c : Compiler) (registry : Registry) (name : String) (definition : KeywordDefinition)
    (checked : Bool) : Except SchemaError Registry := do
  if registry.isKnown name then throw (.duplicateKeyword name)
  if !isIdentifier name then throw (.invalidIdentifier name)
  if checked then
    let violations ← definitionViolations definition
    if !violations.isEmpty then throw (.invalidDefinition name violations)
  let metaValidator ← c.metaValidator registry definition
  return registry.addCustom (.ofCustom name definition metaValidator) definition.types

/-- Adds a keyword; a definition without names gets the keyword's. -/
def addKeyword (c : Compiler) (name : String) (definition : KeywordDefinition) (checked : Bool) :
    Except SchemaError Compiler := do
  let definition :=
    if definition.keywords.isEmpty then { definition with keywords := [name] } else definition
  return { c with registry := ← c.register c.registry name definition checked }.invalidate

/-- The violation of a definition in a vocabulary that names no keyword. -/
def withoutKeyword : SchemaError :=
  .invalidDefinition ""
    [⟨"required", "", "#/required", .obj [("missingProperty", "keyword")],
      "should have required property 'keyword'"⟩]

/-- The registry with a definition added under each of its names. -/
def registerAll (c : Compiler) (checked : Bool) (registry : Registry) (definition : KeywordDefinition) :
    Except SchemaError Registry :=
  if definition.keywords.isEmpty then .error withoutKeyword
  else definition.keywords.foldlM (fun r name => c.register r name definition checked) registry

/-- Adds every name of every definition. -/
def addVocabulary (c : Compiler) (definitions : List KeywordDefinition) (checked : Bool) :
    Except SchemaError Compiler := do
  return { c with registry := ← definitions.foldlM (c.registerAll checked) c.registry }.invalidate

def removeKeyword (c : Compiler) (name : String) : Compiler :=
  let (registry, removed) := c.registry.remove name
  let c := { c with registry }
  if removed then c.invalidate else c

def getKeyword (c : Compiler) (name : String) : KeywordInfo :=
  match (c.registry.custom.get? name).bind Rule.definition? with
  | some definition => .custom definition
  | none => if c.registry.isKnown name then .builtin else .unknown

end Compiler

end JsonSchema
