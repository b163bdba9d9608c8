import JsonSchema.Compiler.Basic
import JsonSchema.Files.Access
import JsonSchema.Json.Reader
import JsonSchema.Store.StrictMode

/-!
# Stores

A store holds schema documents under keys, a document's `$id` or else the name it came with, until they
are installed into a compiler.
-/

set_option autoImplicit false

namespace JsonSchema

structure StoreConfig where
  /-- Close object schemas when they are stored. -/
  strictMode : Bool := false
  /-- How many files a directory may hold. -/
  maxSchemas : Nat := 256
  /-- How many bytes a file may have. -/
  maxFileSize : Nat := 262144
deriving DecidableEq, Inhabited

/-- Why a directory cannot be loaded. -/
inductive LoadFailure where
  | directory (path : String) (cause : FileError)
  | symlink (name : String)
  | tooMany (limit count : Nat)
  | tooLarge (path : String) (size : Nat)
  | unreadable (path : String) (cause : FileError)

def LoadFailure.message : LoadFailure → String
  | directory path cause => s!"{path}: {cause.message}"
  | symlink name => s!"refusing to load schema symlink: {name}"
  | tooMany limit count => s!"schema count exceeds configured max ({limit}): {count}"
  | tooLarge path size => s!"schema file too large ({size} bytes): {path}"
  | unreadable path cause => s!"failed reading schema {path}: {cause.message}"

inductive StoreError where
  | loadFailed (cause : LoadFailure)
  | invalidJson (name : String)
  | duplicateKey (key : String)
  /-- The compiler refuses a document. -/
  | schema (cause : SchemaError)

def StoreError.message : StoreError → String
  | loadFailed cause => s!"failed to load schema: {cause.message}"
  | invalidJson name => s!"schema {name} is not valid JSON"
  | duplicateKey key => s!"duplicate schema key {key}"
  | schema cause => cause.message

structure SchemaStore where
  documents : Table String Json
  config : StoreConfig

namespace SchemaStore

def new (config : StoreConfig) : SchemaStore := ⟨.empty, config⟩

/-- Adds a document; the answer names its key. -/
def insertValue (s : SchemaStore) (name : String) (schema : Json) :
    Except StoreError (SchemaStore × String) :=
  let schema := if s.config.strictMode then schema.closed else schema
  let key := (idOf? schema).getD name
  if s.documents.contains key then .error (.duplicateKey key)
  else .ok ({ s with documents := s.documents.set key schema }, key)

/-- Adds a document from its text. -/
def insert (s : SchemaStore) (name text : String) : Except StoreError (SchemaStore × String) :=
  match Json.parse? text with
  | some schema => s.insertValue name schema
  | none => .error (.invalidJson name)

def get? (s : SchemaStore) (key : String) : Option Json := s.documents.get? key

/-- The documents with their keys, sorted by key. -/
def entries (s : SchemaStore) : List (String × Json) := s.documents.entries.mergeSort fun a b => a.1 ≤ b.1

def keys (s : SchemaStore) : List String := s.entries.map Prod.fst

def size (s : SchemaStore) : Nat := s.documents.entries.length

/-! ## Installing -/

/-- Adds documents to a compiler in order and names their normalized keys. -/
def installEntries (c : Compiler) (installed : List String) :
    List (String × Json) → Compiler × Except SchemaError (List String)
  | [] => (c, .ok installed)
  | (key, schema) :: rest =>
    match c.addSchema schema (some key) with
    | .ok (c, normalized) => installEntries c (installed ++ [normalized]) rest
    | .error e => (installed.foldl (fun c normalized => (c.removeSchema normalized).1) c, .error e)

/-- Adds every document to a compiler, or none of them. -/
def install (s : SchemaStore) (c : Compiler) : Compiler × Except SchemaError (List String) :=
  installEntries c [] s.entries

end SchemaStore

end JsonSchema
