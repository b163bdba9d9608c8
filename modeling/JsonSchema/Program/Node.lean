import JsonSchema.DataType
import JsonSchema.Program.DataRef
import JsonSchema.Regex.Matching
import JsonSchema.Violation

/-!
# Programs

A compiled schema is a program: a tree of checks with calls to numbered procedures, one procedure for
each schema that a reference leads to.
-/

set_option autoImplicit false

namespace JsonSchema

/-- How a keyword words its violations, from its value in the schema and the data. -/
structure ErrorText where
  message : (schema data : Json) → String
  params : (schema data : Json) → Json

/-- Where in the schema a violation is reported, and how. -/
structure ErrorSite where
  keyword : String
  schemaPath : String
  /-- The keyword's value as it stands in the schema. -/
  schema : Json
  text : ErrorText

/-- The value of a keyword: as it stands in the schema, or taken from the data. -/
inductive SchemaValue where
  | literal (v : Json)
  | data (r : DataRef)

/-- A test of the data against the value of a keyword. -/
structure Check where
  value : SchemaValue
  /-- The types that a value taken from the data may have; an empty list allows any. -/
  expects : List DataType
  /-- Whether the data fails, from the data and the value of the keyword. -/
  fails : (data schema : Json) → Bool
  site : ErrorSite

/-- A choice of an object's members by name. -/
inductive PropertyFilter where
  | named (pattern : Regex)
  /-- Names that are neither known nor match a pattern. -/
  | additional (known : List String) (patterns : List Regex)

def PropertyFilter.selects : PropertyFilter → String → Bool
  | named pattern, name => pattern.isMatch name
  | additional known patterns, name => !known.contains name && !patterns.any (·.isMatch name)

inductive Node where
  | pass
  | all (nodes : List Node)
  | reject (site : ErrorSite)
  /-- Only data of the type is checked. -/
  | guard (group : DataType) (body : Node)
  | type (types : List DataType) (site : ErrorSite)
  | check (c : Check)
  | call (procedure : Nat)
  /-- Checks the part that a step leads to, if there is one. -/
  | descend (step : Step) (body : Node)
  /-- Checks the elements of an array from a number on. -/
  | items (start : Nat) (body : Node)
  | properties (filter : PropertyFilter) (body : Node)
  /-- Refuses the chosen members. -/
  | noProperties (filter : PropertyFilter) (site : ErrorSite)
  /-- Checks the names of the members as strings. -/
  | propertyNames (body : Node) (site : ErrorSite)
  | ifPresent (name : String) (body : Node)
  | contains (body : Node) (site : ErrorSite)
  | anyOf (branches : List Node) (site : ErrorSite)
  | oneOf (branches : List Node) (site : ErrorSite)
  | not (body : Node) (site : ErrorSite)
  /-- A branch that is missing in the schema passes. -/
  | ifThenElse (condition thenBranch elseBranch : Node) (site : ErrorSite)

namespace Node

instance : Inhabited Node := ⟨pass⟩

def isPass : Node → Bool
  | pass => true
  | _ => false

/-- All of the nodes, leaving out those that always pass. -/
def conj (nodes : List Node) : Node :=
  match nodes.filter (!·.isPass) with
  | [] => pass
  | [n] => n
  | ns => all ns

end Node

structure Program where
  root : Node
  procedures : List Node

end JsonSchema
