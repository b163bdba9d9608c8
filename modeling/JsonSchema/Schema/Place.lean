import JsonSchema.Format.Basic
import JsonSchema.Keyword.Registry
import JsonSchema.Schema.Reference

/-!
# Places in schemas

Lowering turns a schema into a node of a program.  It happens at a position, which knows the way to the
schema and to the data; a keyword is lowered at a place, which is a position with the keyword's value
and the schema around it.  Subschemas are lowered by a function that is passed along.
-/

set_option autoImplicit false

namespace JsonSchema

/-- What lowering reads. -/
structure Environment where
  registry : Registry
  options : Options
  formats : Formats
  documents : Documents

structure Position where
  schemaPath : String
  /-- The way to the data, with `{index}` for any element and `{key}` for any member. -/
  dataPath : String
  dataLevel : Nat
  /-- The base of references. -/
  base : Uri
  /-- How often the data has been entered on the way here, also through references. -/
  descents : Nat

/-- The position of the target of a reference. -/
def Position.ofTarget (target : Target) (descents : Nat) : Position :=
  ⟨"#" ++ target.fragment, "", 0, target.base, descents⟩

/-- A schema that a reference leads to; it has no body while it is being lowered. -/
structure Procedure where
  target : Target
  /-- How often the data had been entered where lowering it began. -/
  descents : Nat
  body : Option Node

/-- Lowering adds procedures and may refuse. -/
abbrev LowerM := StateT (List Procedure) (Except SchemaError)

/-- Lowers a schema at a position. -/
abbrev Lower := Json → Position → LowerM Node

/-- A keyword in a schema. -/
structure KeywordPlace where
  env : Environment
  /-- The schema that the keyword belongs to. -/
  parent : List (String × Json)
  /-- Where that schema stands. -/
  position : Position
  keyword : String
  /-- The keyword's value; `null` if only a keyword that this one implements stands there. -/
  schema : Json
  /-- Where in the data the value is to be taken from instead. -/
  data : Option DataRef
  /-- The types that the value may have; an empty list allows any. -/
  expects : List DataType

namespace ErrorText

/-- A wording that depends on nothing. -/
def fixed (message : String) (params : Json) : ErrorText := ⟨fun _ _ => message, fun _ _ => params⟩

end ErrorText

namespace KeywordPlace

/-- The path of a keyword that stands beside this one. -/
def siblingPath (p : KeywordPlace) (keyword : String) : String := s!"{p.position.schemaPath}/{keyword}"

def schemaPath (p : KeywordPlace) : String := p.siblingPath p.keyword

def sibling? (p : KeywordPlace) (keyword : String) : Option Json := p.parent.lookup keyword

/-! ## Refusals -/

def siblingError (p : KeywordPlace) (keyword message : String) : SchemaError :=
  .compilation keyword (p.siblingPath keyword) message

def error (p : KeywordPlace) (message : String) : SchemaError := p.siblingError p.keyword message

/-! ## Checks -/

def site (p : KeywordPlace) (text : ErrorText) : ErrorSite := ⟨p.keyword, p.schemaPath, p.schema, text⟩

/-- Where violations of a keyword beside this one are reported. -/
def siblingSite (p : KeywordPlace) (keyword : String) (schema : Json) (text : ErrorText) : ErrorSite :=
  ⟨keyword, p.siblingPath keyword, schema, text⟩

/-- A test of the data against the keyword's value. -/
def check (p : KeywordPlace) (text : ErrorText) (fails : (data schema : Json) → Bool) : Node :=
  .check {
    value := match p.data with
      | some r => .data r
      | none => .literal p.schema
    expects := p.expects
    fails
    site := p.site text }

/-- A test of the data by itself. -/
def dataCheck (site : ErrorSite) (fails : Json → Bool) : Node :=
  .check { value := .literal site.schema, expects := [], fails := fun data _ => fails data, site }

/-! ## Positions of subschemas -/

/-- The position of a subschema for the same data. -/
def inside (p : KeywordPlace) (relative : String) : Position :=
  { p.position with schemaPath := p.siblingPath relative }

/-- The position of a subschema for a part of the data. -/
def below (p : KeywordPlace) (relative step : String) : Position :=
  { p.inside relative with
    dataPath := p.position.dataPath ++ step
    dataLevel := p.position.dataLevel + 1
    descents := p.position.descents + 1 }

/-- The position of a subschema for the names of the data's members. -/
def onNames (p : KeywordPlace) (relative : String) : Position :=
  { p.inside relative with descents := p.position.descents + 1 }

end KeywordPlace

end JsonSchema
