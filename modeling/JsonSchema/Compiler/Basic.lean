import JsonSchema.Schema.Lowering

/-!
# Compilers

A compiler turns schemas into validators.  It holds a registry of keywords, formats and documents that
references can lead to, and keeps the validators of its documents until one of these changes.
-/

set_option autoImplicit false

namespace JsonSchema

structure Compiler where
  options : Options
  registry : Registry
  formats : Formats
  /-- The documents by their normalized keys. -/
  documents : Table String Json
  /-- The validators of documents that were asked for since the last change. -/
  compiled : Table String Validator

namespace Compiler

/-- A compiler with the keywords and formats of draft-07 and without documents. -/
def new (options : Options) : Compiler where
  options := options
  registry := .withBuiltins
  formats := .builtin
  documents := .empty
  compiled := .empty

/-- Compiles a schema under another registry. -/
def compileUnder (c : Compiler) (registry : Registry) (schema : Json) : Except SchemaError Validator :=
  compileSchema { registry, options := c.options, formats := c.formats, cache := c.documents } schema

def compile (c : Compiler) (schema : Json) : Except SchemaError Validator :=
  c.compileUnder c.registry schema

/-- Forgets the validators that were kept. -/
def invalidate (c : Compiler) : Compiler := { c with compiled := .empty }

/-! ## Documents -/

/-- Adds a document under a key, or under its `$id` if there is none; the answer names the normalized
key. -/
def addSchema (c : Compiler) (schema : Json) (key : Option String) :
    Except SchemaError (Compiler × String) := do
  let some id := key <|> idOf? schema
    | throw (.compilation "$id" "#" "schema needs an $id or a key")
  let key ← normalizeId id
  if c.documents.contains key then throw (.duplicateSchema key)
  return ({ c with documents := c.documents.set key schema }.invalidate, key)

/-- Removes the document of a key; the answer holds it, if there was one. -/
def removeSchema (c : Compiler) (key : String) : Compiler × Option Json :=
  match normalizeId key with
  | .error _ => (c, none)
  | .ok key =>
    match c.documents.get? key with
    | some schema => ({ c with documents := c.documents.erase key }.invalidate, some schema)
    | none => (c, none)

/-- The validator of the document of a key, if there is one; it is kept. -/
def getSchema (c : Compiler) (key : String) : Except SchemaError (Compiler × Option Validator) := do
  let key ← normalizeId key
  match c.compiled.get? key, c.documents.get? key with
  | some validator, _ => return (c, some validator)
  | none, none => return (c, none)
  | none, some schema =>
    let validator ← c.compile schema
    return ({ c with compiled := c.compiled.set key validator }, some validator)

/-- The normalized keys of the documents, sorted. -/
def schemaKeys (c : Compiler) : List String := c.documents.keys.mergeSort

/-! ## Formats -/

/-- Adds a format in place of any other of that name. -/
def addFormat (c : Compiler) (name : String) (format : Format) : Compiler :=
  { c with formats := c.formats.set name format }.invalidate

end Compiler

end JsonSchema
