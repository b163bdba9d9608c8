import JsonSchema.Schema.Assertion

/-!
# Keywords that apply subschemas

Each of these keywords lowers its subschemas, and those of the keywords beside it that it takes care of,
in the order in which they are reported.  A subschema that always passes contributes nothing.
-/

set_option autoImplicit false

namespace JsonSchema

/-- Refuses a program's place for what cannot be lowered. -/
def refuse {α : Type} (e : SchemaError) : LowerM α := throw e

/-- Does what does not concern the procedures. -/
def liftExcept {α : Type} (x : Except SchemaError α) : LowerM α := fun procedures => x.map (·, procedures)

/-- The node around a body, or nothing if the body always passes. -/
def unlessPass (body : Node) (around : Node → Node) : List Node := if body.isPass then [] else [around body]

namespace KeywordPlace

/-! ## References -/

/-- The number of the procedure that a reference leads to, which is lowered when it is first needed.  A
reference back to one that is still being lowered has to enter the data on the way. -/
def procedureOf (lower : Lower) (p : KeywordPlace) (reference : String) : LowerM Nat := do
  let target ← liftExcept (p.env.documents.resolve p.position.base reference)
  let procedures ← get
  match procedures.findIdx? (·.target.key = target.key) with
  | some id =>
    if procedures[id]?.any fun q => q.body.isNone && q.descents = p.position.descents then
      refuse (.compilation "$ref" p.schemaPath
        s!"reference {reference} loops back without moving into the data")
    return id
  | none =>
    let id := procedures.length
    set (procedures ++ [⟨target, p.position.descents, none⟩])
    let body ← lower target.schema (.ofTarget target p.position.descents)
    modify fun procedures => procedures.modify id fun q => { q with body := some body }
    return id

def ref (lower : Lower) (p : KeywordPlace) : LowerM (List Node) := do
  let id ← p.procedureOf lower (p.schema.str?.getD "")
  return [.call id]

/-! ## Arrays -/

/-- The items at fixed places, numbered from `start` on. -/
def tupleItems (lower : Lower) (p : KeywordPlace) (start : Nat) : List Json → LowerM (List Node)
  | [] => return []
  | schema :: rest => do
    let body ← lower schema (p.below s!"items/{start}" s!"/{start}")
    let others ← tupleItems lower p (start + 1) rest
    return unlessPass body (.descend (.index start)) ++ others

/-- The one check that a tuple without additional items needs. -/
def noAdditionalItems (p : KeywordPlace) (count : Nat) : Node :=
  let site := p.siblingSite "additionalItems" (.bool false)
    (.fixed s!"should NOT have more than {count} items" (.obj [("limit", count)]))
  dataCheck site fun data => data.arr?.any (count < ·.length)

def elementsFrom (lower : Lower) (p : KeywordPlace) (keyword : String) (start : Nat) (schema : Json) :
    LowerM (List Node) := do
  let body ← lower schema (p.below keyword "/\x7bindex\x7d")
  return unlessPass body (.items start)

/-- `items` with `additionalItems`, which counts only beside a tuple. -/
def items (lower : Lower) (p : KeywordPlace) : LowerM (List Node) := do
  let additional := p.sibling? "additionalItems"
  if additional.any fun a => a.bool?.isNone && a.obj?.isNone then
    refuse (p.siblingError "additionalItems" "value should be object,boolean")
  match p.schema with
  | .null => return []
  | .arr tuple =>
    let bound := if additional.any (·.bool? == some false) then [p.noAdditionalItems tuple.length] else []
    let fixed ← p.tupleItems lower 0 tuple
    let others ← match additional with
      | some (.obj members) => p.elementsFrom lower "additionalItems" tuple.length (.obj members)
      | _ => pure []
    return bound ++ fixed ++ others
  | single => p.elementsFrom lower "items" 0 single

def contains (lower : Lower) (p : KeywordPlace) : LowerM (List Node) := do
  let body ← lower p.schema (p.below "contains" "/\x7bindex\x7d")
  return [.contains body (p.site (.fixed "should contain a valid item" (.obj [])))]

/-! ## Objects -/

/-- The checks that an object with the property has the others too. -/
def neededProperties (p : KeywordPlace) (property : String) (names : Json) :
    Except SchemaError (List Node) := do
  let needed ← p.propertyNames names
  return needed.map fun missing =>
    let text : ErrorText := .fixed
      s!"should have property {missing} when property {property} is present"
      (.obj [("property", .str property), ("missingProperty", .str missing),
        ("depsCount", .num (.ofNat needed.length)), ("deps", .str (", ".intercalate needed))])
    dataCheck (p.siblingSite p.keyword names text) (lacks missing)

/-- What an object with the property has to fulfil. -/
def dependency (lower : Lower) (p : KeywordPlace) (property : String) (needs : Json) : LowerM Node :=
  match needs with
  | .arr _ => do return .conj (← liftExcept (p.neededProperties property needs))
  | schema => lower schema (p.inside ("dependencies/" ++ escapeToken property))

def dependencies (lower : Lower) (p : KeywordPlace) : LowerM (List Node) := do
  let nodes ← (p.schema.obj?.getD []).mapM fun (property, needs) => do
    let body ← p.dependency lower property needs
    return unlessPass body (.ifPresent property)
  return nodes.flatten

def nameSchema (lower : Lower) (p : KeywordPlace) : LowerM (List Node) := do
  let body ← lower p.schema (p.onNames "propertyNames")
  let text : ErrorText := {
    message := fun _ name => "property name '" ++ name.str?.getD "" ++ "' is invalid"
    params := fun _ name => .obj [("propertyName", name)] }
  return unlessPass body (.propertyNames · (p.site text))

/-- The members of an object beside the keyword. -/
def siblingMembers (p : KeywordPlace) (keyword : String) : List (String × Json) :=
  ((p.sibling? keyword).bind Json.obj?).getD []

/-- The properties with schemas of their own. -/
def namedProperties (lower : Lower) (p : KeywordPlace) : LowerM (List Node) := do
  let nodes ← (p.siblingMembers "properties").mapM fun (name, schema) => do
    let token := escapeToken name
    let body ← lower schema (p.below ("properties/" ++ token) ("/" ++ token))
    return unlessPass body (.descend (.key name))
  return nodes.flatten

/-- The properties whose names match patterns, and the patterns. -/
def patternProperties (lower : Lower) (p : KeywordPlace) : LowerM (List Node × List Regex) := do
  let compiled ← (p.siblingMembers "patternProperties").mapM fun (pattern, schema) => do
    let some r := Regex.parse? pattern
      | refuse (.invalidRegex pattern (p.siblingPath "patternProperties"))
    let body ← lower schema (p.below ("patternProperties/" ++ escapeToken pattern) "/\x7bkey\x7d")
    return (unlessPass body (.properties (.named r)), r)
  return (compiled.flatMap Prod.fst, compiled.map Prod.snd)

/-- The properties that neither have a schema of their own nor match a pattern. -/
def additionalProperties (lower : Lower) (p : KeywordPlace) (patterns : List Regex) :
    LowerM (List Node) := do
  let others : PropertyFilter := .additional ((p.siblingMembers "properties").map Prod.fst) patterns
  match p.sibling? "additionalProperties" with
  | none | some (.bool true) => return []
  | some (.bool false) =>
    let text : ErrorText := {
      message := fun _ _ => "should NOT have additional properties"
      params := fun _ name => .obj [("additionalProperty", name)] }
    return [.noProperties others (p.siblingSite "additionalProperties" (.bool false) text)]
  | some schema =>
    let body ← lower schema (p.below "additionalProperties" "/\x7bkey\x7d")
    return unlessPass body (.properties others)

/-- `properties` with `patternProperties` and `additionalProperties`. -/
def properties (lower : Lower) (p : KeywordPlace) : LowerM (List Node) := do
  if (p.sibling? "patternProperties").any (·.obj?.isNone) then
    refuse (p.siblingError "patternProperties" "value should be object")
  let named ← p.namedProperties lower
  let (matched, patterns) ← p.patternProperties lower
  let others ← p.additionalProperties lower patterns
  return named ++ matched ++ others

/-! ## Combinations of schemas -/

def branchesFrom (lower : Lower) (p : KeywordPlace) (start : Nat) : List Json → LowerM (List Node)
  | [] => return []
  | schema :: rest => do
    let body ← lower schema (p.inside s!"{p.keyword}/{start}")
    return body :: (← branchesFrom lower p (start + 1) rest)

/-- The schemas that a keyword combines. -/
def branches (lower : Lower) (p : KeywordPlace) : LowerM (List Node) :=
  match p.schema.arr?.getD [] with
  | [] => refuse (p.error "value should be a non-empty array of schemas")
  | schemas => p.branchesFrom lower 0 schemas

def not (lower : Lower) (p : KeywordPlace) : LowerM (List Node) := do
  let body ← lower p.schema (p.inside "not")
  return [.not body (p.site (.fixed "should NOT be valid" (.obj [])))]

def anyOf (lower : Lower) (p : KeywordPlace) : LowerM (List Node) := do
  let branches ← p.branches lower
  return [.anyOf branches (p.site (.fixed "should match some schema in anyOf" (.obj [])))]

def oneOf (lower : Lower) (p : KeywordPlace) : LowerM (List Node) := do
  let branches ← p.branches lower
  return [.oneOf branches (p.site (.fixed "should match exactly one schema in oneOf" (.obj [])))]

/-- A branch of `if`; one that is missing passes. -/
def branch (lower : Lower) (p : KeywordPlace) (keyword : String) : LowerM Node :=
  match p.sibling? keyword with
  | some schema => lower schema (p.inside keyword)
  | none => return .pass

/-- `if` with `then` and `else`, which have no effect without it, nor it without them. -/
def ifThenElse (lower : Lower) (p : KeywordPlace) : LowerM (List Node) :=
  match p.schema, p.sibling? "then", p.sibling? "else" with
  | .null, _, _ => return []
  | _, none, none => return []
  | schema, _, _ => do
    let condition ← lower schema (p.inside "if")
    let thenBranch ← p.branch lower "then"
    let elseBranch ← p.branch lower "else"
    let text := .fixed "should match \"then\" schema" (.obj [("failingKeyword", "then")])
    return [.ifThenElse condition thenBranch elseBranch (p.site text)]

end KeywordPlace

end JsonSchema
