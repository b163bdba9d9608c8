import JsonSchema.Text.Quoted
import JsonSchema.Uri.Basic
import JsonSchema.Violation

/-!
# Why a schema or a keyword is refused
-/

set_option autoImplicit false

namespace JsonSchema

inductive SchemaError where
  | duplicateKeyword (keyword : String)
  | invalidIdentifier (keyword : String)
  | invalidDefinition (keyword : String) (violations : List Violation)
  /-- The value of a keyword cannot be compiled. -/
  | compilation (keyword schemaPath message : String)
  | invalidSchemaType (schemaPath : String)
  | unknownKeyword (keyword schemaPath : String)
  | unknownFormat (format schemaPath : String)
  | missingRef (reference base : String)
  | invalidRegex (pattern schemaPath : String)
  | invalidDataRef (pointer schemaPath : String)
  | duplicateSchema (key : String)
  | invalidUri (uri : String) (cause : UriError)
  /-- Compiling went deeper than any schema does whose macros come to an end. -/
  | tooDeep

namespace SchemaError

def message : SchemaError → String
  | duplicateKeyword keyword => s!"keyword {keyword} is already defined"
  | invalidIdentifier keyword => s!"keyword {keyword} is not a valid identifier"
  | invalidDefinition keyword violations =>
    s!"custom keyword definition for {keyword} is invalid: " ++ Violation.listText violations
  | compilation keyword schemaPath message => s!"{keyword} at {schemaPath}: {message}"
  | invalidSchemaType schemaPath => s!"schema at {schemaPath} must be an object or a boolean"
  | unknownKeyword keyword schemaPath => s!"unknown keyword {keyword} at {schemaPath}"
  | unknownFormat format schemaPath => s!"unknown format \"{format}\" at {schemaPath}"
  | missingRef reference base => s!"can't resolve reference {reference} from id {base}"
  | invalidRegex pattern schemaPath =>
    "invalid regular expression " ++ quoted pattern ++ s!" at {schemaPath}"
  | invalidDataRef pointer schemaPath => "invalid $data reference " ++ quoted pointer ++ s!" at {schemaPath}"
  | duplicateSchema key => s!"schema with key or id \"{key}\" already exists"
  | invalidUri uri cause => "invalid URI " ++ quoted uri ++ ": " ++ cause.message
  | tooDeep => "schema macros do not come to an end"

end SchemaError

end JsonSchema
