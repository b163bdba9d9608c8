import JsonSchema.Json.Text

/-!
# Violations

A violation says which keyword failed, where in the data and where in the schema.
-/

set_option autoImplicit false

namespace JsonSchema

structure Violation where
  keyword : String
  /-- A JSON pointer into the data. -/
  dataPath : String
  /-- `#` and a JSON pointer into the schema. -/
  schemaPath : String
  params : Json
  message : String

namespace Violation

def toJson (v : Violation) : Json :=
  .obj [("keyword", v.keyword), ("dataPath", v.dataPath), ("schemaPath", v.schemaPath),
    ("params", v.params), ("message", v.message)]

/-- Reads a violation: an object with its five members and any others, or an array of the five in order. -/
def ofJson? (v : Json) : Option Violation :=
  match v with
  | .arr [.str keyword, .str dataPath, .str schemaPath, params, .str message] =>
    some { keyword, dataPath, schemaPath, params, message }
  | _ => do
    return {
      keyword := ← (← v.get? "keyword").str?
      dataPath := ← (← v.get? "dataPath").str?
      schemaPath := ← (← v.get? "schemaPath").str?
      params := ← v.get? "params"
      message := ← (← v.get? "message").str? }

/-- One line about a violation. -/
def text (v : Violation) : String := s!"data{v.dataPath} {v.message}"

/-- One line about all of them. -/
def listText (vs : List Violation) : String :=
  if vs.isEmpty then "No errors" else ", ".intercalate (vs.map text)

end Violation

end JsonSchema
