import JsonSchema.Files.Access
import JsonSchema.Text.Digits

/-!
# File trees

A file system in memory, as a tree of directories.  Paths are looked up from its root; what lies above
the root, and absolute paths with it, is an empty directory.
-/

set_option autoImplicit false

namespace JsonSchema

inductive FileTree where
  | file (content : ByteArray)
  | directory (entries : List (String × FileTree))
  | symlink (target : String)

namespace FileTree

def kind : FileTree → EntryKind
  | file _ => .file
  | directory _ => .directory
  | symlink _ => .symlink

/-- The parts of a path between its slashes. -/
def components (path : String) : List String :=
  (splitAtChar '/' path.toList).map String.ofList

/-- Puts a node at a path, making the directories on the way. -/
def insert (node : FileTree) : List String → FileTree → FileTree
  | [], _ => node
  | name :: rest, directory entries =>
    let inner := insert node rest ((entries.lookup name).getD (directory []))
    if (entries.lookup name).isSome then
      directory (entries.map fun e => if e.1 == name then (name, inner) else e)
    else directory (entries ++ [(name, inner)])
  | name :: rest, _ => directory [(name, insert node rest (directory []))]

/-- Where a walk starts: at the root for a relative path, else above it. -/
def start (root : FileTree) (path : String) : List FileTree := if path.startsWith "/" then [] else [root]

/-- Follows a path from a place, which is a node with the directories around it, innermost first; above
the root it is empty.  So many links may be followed. -/
def walk (root : FileTree) (links : Nat) (place : List FileTree) :
    List String → Except FileError (List FileTree)
  | [] => .ok place
  | name :: rest =>
    match place with
    | [] =>
      if name.isEmpty || name == "." || name == ".." then walk root links [] rest else .error .notFound
    | directory entries :: around =>
      if name.isEmpty || name == "." then walk root links place rest
      else if name == ".." then walk root links around rest
      else
        match entries.lookup name with
        | none => .error (if name.utf8ByteSize > 255 then .nameTooLong else .notFound)
        | some (symlink target) =>
          match links with
          | 0 => .error .tooManyLinks
          | links + 1 =>
            let next := if target.startsWith "/" then [] else place
            walk root links next (components target ++ rest)
        | some node => walk root links (node :: place) rest
    | _ => .error .notDirectory
termination_by names => (links, names.length)

/-- How many links one look-up follows. -/
def maxLinks : Nat := 40

/-- The node that a path leads to; above the root there is an empty directory. -/
def find (root : FileTree) (path : String) : Except FileError FileTree :=
  if path.isEmpty then .error .notFound
  else
    (walk root maxLinks (start root path) (components path)).map fun
      | node :: _ => node
      | [] => directory []

def read (root : FileTree) (path : String) : Except FileError ByteArray := do
  match ← root.find path with
  | file content => return content
  | _ => throw .isDirectory

def list (root : FileTree) (path : String) : Except FileError (List DirectoryEntry) := do
  match ← root.find path with
  | directory entries => return entries.map fun (name, node) => ⟨name, node.kind⟩
  | _ => throw .notDirectory

/-- A file system that never changes. -/
def access (root : FileTree) : FileAccess Id where
  read path := root.read path
  list path := root.list path

end FileTree

end JsonSchema
