import JsonSchema.Json.Pointer
import JsonSchema.SchemaError
import JsonSchema.Table
import JsonSchema.Uri.Parser

/-!
# References between schemas

A schema with an `$id` can be referred to by that URI, and any part of it by the URI with a JSON pointer
as the fragment.  `Documents` lists what can be referred to; `Documents.resolve` finds what a reference
leads to and the base of the references inside it.
-/

set_option autoImplicit false

namespace JsonSchema

/-- The base of documents that do not say where they are. -/
def defaultBase : Uri where
  scheme := "json-schema".toList
  authority := some {}
  path := .segments [[]]
  query := none
  fragment := none

/-- The URI that a reference stands for. -/
def resolveUri (base : Uri) (reference : String) : Except SchemaError Uri :=
  (base.join reference).mapError (.invalidUri reference)

/-- The key under which a document is kept: its absolute URI without fragment. -/
def normalizeId (id : String) : Except SchemaError String :=
  (resolveUri defaultBase id).map (·.withoutFragment.text)

/-- The `$id` of a schema. -/
def idOf? (schema : Json) : Option String := (schema.get? "$id").bind Json.str?

/-- The base of the references in a schema that stands in a place with the given base. -/
def schemaBase (schema : Json) (base : Uri) : Except SchemaError Uri :=
  match idOf? schema with
  | some id => (resolveUri base id).map Uri.withoutFragment
  | none => .ok base

/-- Whether a fragment is a name given to a schema, and not a JSON pointer. -/
def isAnchor : List Char → Bool
  | [] => false
  | first :: _ => first != '/'

def Uri.isAnchored (u : Uri) : Bool := u.fragment.any isAnchor

/-- The schemas that can be referred to, by their URIs. -/
abbrev Documents := Table String Json

namespace Documents

/-- Files a schema under its `$id`, if it has one.  A name as the fragment leaves the base alone; any
other `$id` sets the base of what is inside. -/
def identify (docs : Documents) (base : Uri) (schema : Json) : Except SchemaError (Documents × Uri) :=
  match idOf? schema with
  | none => .ok (docs, base)
  | some id => do
    let uri ← resolveUri base id
    if uri.isAnchored then return (docs.set uri.text schema, base)
    else return (docs.set uri.withoutFragment.text schema, uri.withoutFragment)

/-- Keywords whose values are data, in which no schema is looked for. -/
def dataKeywords : List String := ["const", "enum", "default", "examples"]

mutual

/-- Files every identified schema inside a value. -/
def index (docs : Documents) (base : Uri) : Json → Except SchemaError Documents
  | .obj members => do
    let (docs, base) ← docs.identify base (.obj members)
    indexMembers docs base members
  | .arr items => indexItems docs base items
  | _ => .ok docs

def indexItems (docs : Documents) (base : Uri) : List Json → Except SchemaError Documents
  | [] => .ok docs
  | v :: rest => do indexItems (← index docs base v) base rest

def indexMembers (docs : Documents) (base : Uri) : List (String × Json) → Except SchemaError Documents
  | [] => .ok docs
  | (name, v) :: rest => do
    if dataKeywords.contains name then indexMembers docs base rest
    else indexMembers (← index docs base v) base rest

end

/-- Files a document under a URI, and the schemas inside it under theirs. -/
def add (docs : Documents) (uri : String) (base : Uri) (document : Json) : Except SchemaError Documents :=
  index (docs.set uri document) base document

/-- The documents of a cache, each under its key. -/
def ofCache (cache : Table String Json) : Except SchemaError Documents :=
  cache.entries.foldlM (fun docs (key, document) => do
    docs.add key (← (Uri.parse key).mapError (.invalidUri key)) document) .empty

/-- What references from a document can lead to: the document itself and a cache. -/
def visibleFrom (root : Json) (base : Uri) (cache : Table String Json) : Except SchemaError Documents := do
  (← ofCache cache).add base.text base root

end Documents

/-- What a reference leads to. -/
structure Target where
  schema : Json
  /-- The base of the references inside it. -/
  base : Uri
  /-- Tells targets apart. -/
  key : String
  /-- The JSON pointer to the schema inside its document. -/
  fragment : String

namespace Documents

/-- The part of a value that a token names.  An index may be written with leading zeros. -/
def step? (v : Json) (token : String) : Option Json :=
  match v with
  | .obj members => members.lookup token
  | .arr items => (Pointer.index? token).bind (items[·]?)
  | _ => none

/-- Follows tokens into a schema; every schema on the way may change the base.  The answer `none` is
that the tokens lead nowhere. -/
def follow (schema : Json) (base : Uri) : List String → Except SchemaError (Option (Json × Uri))
  | [] => .ok (some (schema, base))
  | token :: rest =>
    match step? schema token with
    | none => .ok none
    | some inner => do follow inner (← schemaBase inner base) rest

/-- What a reference leads to from a place with the given base. -/
def resolve (docs : Documents) (base : Uri) (reference : String) : Except SchemaError Target := do
  let missing : SchemaError := .missingRef reference base.text
  let uri ← resolveUri base reference
  let document := uri.withoutFragment
  if uri.isAnchored then
    match docs.get? uri.text with
    | some schema => return ⟨schema, document, uri.text, ""⟩
    | none => throw missing
  else
    let some schema := docs.get? document.text | throw missing
    let some pointer := Percent.decode? (uri.fragment.getD []) | throw missing
    let pointer := String.ofList pointer
    let some tokens := Pointer.parse? pointer | throw missing
    match ← follow schema document tokens with
    | some (schema, base) => return ⟨schema, base, document.text ++ "#" ++ pointer, pointer⟩
    | none => throw missing

end Documents

end JsonSchema
