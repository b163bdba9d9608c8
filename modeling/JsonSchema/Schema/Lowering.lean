import JsonSchema.Schema.Applicator

/-!
# From schemas to programs

A schema becomes the conjunction of what its keywords contribute, group by group in the order of the
registry.  `compileProgram` is total: it may need one level of its budget for every schema inside every
schema that references lead to, and more only for custom keywords whose expansions have no end.
-/

set_option autoImplicit false

namespace JsonSchema

/-! ## Custom keywords -/

namespace KeywordPlace

/-- The checks that a keyword's code asks for. -/
def codeChecks (p : KeywordPlace) (text : ErrorText) : List CodeAction → List Node
  | [] => []
  | .setParams params :: rest => p.codeChecks { text with params := fun _ _ => params } rest
  | .fail condition :: rest => p.check text condition :: p.codeChecks text rest
  | .ok condition :: rest =>
    p.check text (fun data schema => !condition data schema) :: p.codeChecks text rest

/-- The wording that a keyword's code ends with. -/
def codeText (text : ErrorText) : List CodeAction → ErrorText
  | [] => text
  | .setParams params :: rest => codeText { text with params := fun _ _ => params } rest
  | _ :: rest => codeText text rest

def view (p : KeywordPlace) : KeywordView where
  keyword := p.keyword
  schema := p.schema
  parent := p.parent
  schemaPath := p.schemaPath
  dataPath := p.position.dataPath
  dataLevel := p.position.dataLevel
  isData := p.data.isSome
  options := p.env.options

/-- What the logic of a definition contributes, and the wording it ends with. -/
def customLogic (lower : Lower) (p : KeywordPlace) (d : KeywordDefinition) :
    LowerM (List Node × ErrorText) := do
  let text := d.errorText p.keyword
  match d.code, d.validate, d.compile, d.expand with
  | some code, _, _, _ => do
    let actions ← liftExcept (code p.view)
    return (p.codeChecks text actions, codeText text actions)
  | none, some validate, _, _ =>
    let seen (schema : Json) := if d.schema == some false then .null else schema
    return ([p.check text fun data schema => !validate (seen schema) data], text)
  | none, none, some compile, _ => do
    let check ← liftExcept ((compile p.schema p.parent).mapError p.error)
    return ([p.check text fun data _ => !check data], text)
  | none, none, none, some expand => do
    let body ← lower (expand p.schema p.parent) { p.position with schemaPath := p.schemaPath }
    return ([body], text)
  | none, none, none, none => return ([], text)

/-- A custom keyword; one with a fixed result always has it, once its logic has been lowered. -/
def custom (lower : Lower) (p : KeywordPlace) (d : KeywordDefinition) : LowerM (List Node) := do
  let (nodes, text) ← p.customLogic lower d
  return match d.valid with
    | some true => []
    | some false => [.reject (p.site text)]
    | none => nodes

/-! ## Rules -/

/-- A keyword of draft-07. -/
def builtin (lower : Lower) (p : KeywordPlace) : BuiltinKeyword → LowerM (List Node)
  | .maximum => return [p.limit .atMost]
  | .minimum => return [p.limit .atLeast]
  | .exclusiveMaximum => return [p.limit .below]
  | .exclusiveMinimum => return [p.limit .above]
  | .multipleOf => return [← liftExcept p.multipleOf]
  | .format => liftExcept p.format
  | .maxLength => return [p.maximumSize .length]
  | .minLength => return [p.minimumSize .length]
  | .pattern => return [← liftExcept p.pattern]
  | .maxItems => return [p.maximumSize .items]
  | .minItems => return [p.minimumSize .items]
  | .items => p.items lower
  | .contains => p.contains lower
  | .uniqueItems => return [p.uniqueItems]
  | .maxProperties => return [p.maximumSize .properties]
  | .minProperties => return [p.minimumSize .properties]
  | .required => liftExcept p.required
  | .dependencies => p.dependencies lower
  | .propertyNames => p.nameSchema lower
  | .properties => p.properties lower
  | .ref => p.ref lower
  | .const => return [p.constant]
  | .enum => return [p.enumeration]
  | .not => p.not lower
  | .anyOf => p.anyOf lower
  | .oneOf => p.oneOf lower
  | .allOf => p.branches lower
  | .ifThenElse => p.ifThenElse lower

end KeywordPlace

namespace Rule

/-- Whether a schema has the keyword or one that it takes care of. -/
def isPresent (rule : Rule) (members : List (String × Json)) : Bool :=
  (rule.keyword :: rule.implements).any fun name => (members.lookup name).isSome

/-- Where in the data the value of the rule's keyword is to be taken from, if the value says so and may. -/
def dataRef (rule : Rule) (options : Options) (schemaPath : String) (value : Option Json) :
    Except SchemaError (Option DataRef) :=
  match value.bind DataRef.pointerOf? with
  | some pointer =>
    if rule.allowsData && options.data then
      match DataRef.parse? pointer with
      | some r => .ok (some r)
      | none => .error (.invalidDataRef pointer schemaPath)
    else .ok none
  | none => .ok none

/-- Refuses a value of the rule's keyword that is of a wrong type or against the meta-schema. -/
def checkValue (rule : Rule) (schemaPath : String) (value : Json) : Except SchemaError Unit := do
  if !DataType.anyAccepts rule.schemaTypes value then
    throw (.compilation rule.keyword schemaPath s!"value should be {DataType.listText rule.schemaTypes}")
  let verdict : Option Verdict := rule.metaValidator.map fun v => v.validate value
  match verdict with
  | some (.invalid violations) =>
    throw (.compilation rule.keyword schemaPath
      s!"keyword value is invalid: {Violation.listText violations}")
  | some .endless => throw .tooDeep
  | _ => return ()

/-- What a rule contributes to a schema. -/
def lower (lower : Lower) (env : Environment) (members : List (String × Json)) (position : Position)
    (rule : Rule) : LowerM Node := do
  let schemaPath := s!"{position.schemaPath}/{rule.keyword}"
  let value := members.lookup rule.keyword
  let data ← liftExcept (rule.dataRef env.options schemaPath value)
  if let (none, some value) := (data, value) then
    liftExcept (rule.checkValue schemaPath value)
  let p : KeywordPlace := {
    env, parent := members, position, keyword := rule.keyword, schema := value.getD .null, data,
    expects := rule.schemaTypes }
  match rule.implementation with
  | .builtin keyword => return .conj (← p.builtin lower keyword)
  | .custom definition => return .conj (← p.custom lower definition)

end Rule

/-- What the rules of a group contribute to a schema.  Beside `$ref`, no other keyword counts. -/
def RuleGroup.lower (lower : Lower) (env : Environment) (members : List (String × Json))
    (position : Position) (onlyRef : Bool) (group : RuleGroup) : LowerM Node := do
  let rules := group.rules.filter fun rule =>
    rule.isPresent members && (!onlyRef || rule.keyword == "$ref")
  let body := Node.conj (← rules.mapM fun rule => rule.lower lower env members position)
  return match group.appliesTo with
    | some type => if body.isPass then .pass else .guard type body
    | none => body

/-! ## Schemas -/

namespace Environment

/-- Refuses unknown keywords if the options ask for it. -/
def checkKeywords (env : Environment) (schemaPath : String) (members : List (String × Json)) :
    Except SchemaError Unit :=
  match members.find? fun m => !env.registry.isKnown m.1 with
  | some (keyword, _) =>
    if env.options.strictKeywords then .error (.unknownKeyword keyword schemaPath) else .ok ()
  | none => .ok ()

end Environment

/-- The types that a schema declares, if it has a `type`. -/
def declaredTypes (schemaPath : String) (members : List (String × Json)) :
    Except SchemaError (Option (List DataType)) :=
  match members.lookup "type" with
  | none => .ok none
  | some value =>
    match DataType.ofJson? value with
    | some types => .ok (some types)
    | none =>
      .error (.compilation "type" (schemaPath ++ "/type")
        "should be a type name or a non-empty list of type names")

/-- The check of the declared types. -/
def typeNode (schemaPath : String) (members : List (String × Json)) (types : List DataType) : Node :=
  let expected := DataType.listText types
  .type types {
    keyword := "type"
    schemaPath := schemaPath ++ "/type"
    schema := (members.lookup "type").getD .null
    text := .fixed s!"should be {expected}" (.obj [("type", expected)]) }

/-- Whether the rules of a group can concern data of the declared types. -/
def RuleGroup.concerns (group : RuleGroup) (declared : Option (List DataType)) : Bool :=
  match group.appliesTo, declared with
  | some type, some types => types.any (·.admits type)
  | _, _ => true

def lowerObject (lower : Lower) (env : Environment) (members : List (String × Json))
    (position : Position) : LowerM Node := do
  let onlyRef := (members.lookup "$ref").isSome && env.registry.hasRule "$ref"
  let declared ←
    if onlyRef then pure none
    else do
      liftExcept (env.checkKeywords position.schemaPath members)
      liftExcept (declaredTypes position.schemaPath members)
  let groups := env.registry.groups.filter (·.concerns declared)
  let nodes ← groups.mapM (RuleGroup.lower lower env members position onlyRef)
  return .conj ((declared.map (typeNode position.schemaPath members)).toList ++ nodes)

/-- Lowers a schema, with a budget of schemas inside each other and behind references. -/
def lowerSchema (env : Environment) : (budget : Nat) → Lower
  | 0, _, _ => refuse .tooDeep
  | _ + 1, .bool true, _ => return .pass
  | _ + 1, .bool false, position =>
    return .reject
      ⟨"false schema", position.schemaPath, .bool false, .fixed "boolean schema is false" (.obj [])⟩
  | budget + 1, .obj members, position => do
    let base ← liftExcept (schemaBase (.obj members) position.base)
    lowerObject (lowerSchema env budget) env members { position with base }
  | _ + 1, _, position => refuse (.invalidSchemaType position.schemaPath)

/-! ## Programs -/

mutual

/-- The number of values in a value, itself included. -/
def Json.size : Json → Nat
  | .arr items => Json.sizeItems items + 1
  | .obj members => Json.sizeMembers members + 1
  | _ => 1

def Json.sizeItems : List Json → Nat
  | [] => 0
  | v :: rest => v.size + Json.sizeItems rest

def Json.sizeMembers : List (String × Json) → Nat
  | [] => 0
  | (_, v) :: rest => v.size + Json.sizeMembers rest

end

/-- Levels that expansions of custom keywords may add. -/
def expansionAllowance : Nat := 1000

/-- A budget for lowering a schema among documents.  No more procedures can be open at a time than there
are documents, and references to each; inside each of them no more schemas than values. -/
def loweringBudget (schema : Json) (documents : Documents) : Nat :=
  let values := documents.entries.foldl (fun n e => n + e.2.size) schema.size
  2 * (values + 1) * (documents.entries.length * (values + 1) + 1) + expansionAllowance

/-- What a compiler lends to lowering. -/
structure Surroundings where
  registry : Registry
  options : Options
  formats : Formats
  /-- The documents that references can lead to, beside the schema itself. -/
  cache : Table String Json

/-- Compiles a schema into a program. -/
def compileProgram (s : Surroundings) (schema : Json) : Except SchemaError Program := do
  let base ← schemaBase schema defaultBase
  let documents ← Documents.visibleFrom schema base s.cache
  let env : Environment := { registry := s.registry, options := s.options, formats := s.formats, documents }
  let position : Position := ⟨"#", "", 0, base, 0⟩
  let (root, procedures) ← lowerSchema env (loweringBudget schema documents) schema position []
  return { root, procedures := procedures.map (·.body.getD .pass) }

/-- Compiles a schema into a validator. -/
def compileSchema (s : Surroundings) (schema : Json) : Except SchemaError Validator := do
  return { program := ← compileProgram s schema, allErrors := s.options.allErrors }

end JsonSchema
