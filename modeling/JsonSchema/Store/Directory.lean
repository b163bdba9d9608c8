import JsonSchema.Store.Basic

/-!
# Stores from directories

Every regular file whose name ends in `.schema.json` is a document, named by the rest of its name.  The
entries are read in the order of their names, so that the first at fault is always the same one.
-/

set_option autoImplicit false

namespace JsonSchema.SchemaStore

def schemaSuffix : String := ".schema.json"

/-- The name of the document in a file of the given name, if there should be one. -/
def stem? (fileName : String) : Option String :=
  if fileName.endsWith schemaSuffix then
    some (String.ofList (fileName.toList.take (fileName.length - schemaSuffix.length)))
  else none

/-- Adds the document of a file with the given bytes. -/
def insertFile (s : SchemaStore) (path name : String) (content : Except FileError ByteArray) :
    Except StoreError SchemaStore :=
  match content with
  | .error e => .error (.loadFailed (.unreadable path e))
  | .ok bytes =>
    if bytes.size > s.config.maxFileSize then .error (.loadFailed (.tooLarge path bytes.size))
    else
      match String.fromUTF8? bytes with
      | none => .error (.loadFailed (.unreadable path .notUtf8))
      | some text => (s.insert name text).map Prod.fst

variable {m : Type → Type} [Monad m]

/-- Adds the documents of entries, in order; so many have been loaded before. -/
def loadEntries (files : FileAccess m) (directory : String) (loaded : Nat) (s : SchemaStore) :
    List DirectoryEntry → m (Except StoreError SchemaStore)
  | [] => return .ok s
  | entry :: rest =>
    match stem? entry.name, entry.kind with
    | some _, .symlink => return .error (.loadFailed (.symlink entry.name))
    | some name, .file => do
      if loaded + 1 > s.config.maxSchemas then
        return .error (.loadFailed (.tooMany s.config.maxSchemas (loaded + 1)))
      let path := joinPath directory entry.name
      match s.insertFile path name (← files.read path) with
      | .ok s => loadEntries files directory (loaded + 1) s rest
      | .error e => return .error e
    | _, _ => loadEntries files directory loaded s rest

/-- The store of a directory. -/
def ofDirectory (files : FileAccess m) (path : String) (config : StoreConfig) :
    m (Except StoreError SchemaStore) := do
  match ← files.list path with
  | .error e => return .error (.loadFailed (.directory path e))
  | .ok entries => loadEntries files path 0 (new config) (entries.mergeSort fun a b => a.name ≤ b.name)

end JsonSchema.SchemaStore
