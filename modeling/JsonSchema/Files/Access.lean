/-!
# Access to files

What a program needs to know of a file system: the bytes of files and the entries of directories.  The
effects of looking are those of a monad, so that the same program runs on a real file system and on a
tree in memory.
-/

set_option autoImplicit false

namespace JsonSchema

/-- Why a file or a directory cannot be read. -/
inductive FileError where
  | notFound
  | notDirectory
  | isDirectory
  | nameTooLong
  | tooManyLinks
  | permissionDenied
  /-- The file is no text. -/
  | notUtf8
  | other (message : String)

def FileError.message : FileError → String
  | notFound => "No such file or directory (os error 2)"
  | notDirectory => "Not a directory (os error 20)"
  | isDirectory => "Is a directory (os error 21)"
  | nameTooLong => "File name too long (os error 36)"
  | tooManyLinks => "Too many levels of symbolic links (os error 40)"
  | permissionDenied => "Permission denied (os error 13)"
  | notUtf8 => "stream did not contain valid UTF-8"
  | other message => message

inductive EntryKind where
  | file
  | directory
  | symlink
  | other
deriving DecidableEq

structure DirectoryEntry where
  name : String
  kind : EntryKind

structure FileAccess (m : Type → Type) where
  /-- The bytes of the file that a path leads to. -/
  read : (path : String) → m (Except FileError ByteArray)
  /-- The entries of the directory that a path leads to, in any order. -/
  list : (path : String) → m (Except FileError (List DirectoryEntry))

/-- The path of an entry of a directory. -/
def joinPath (directory name : String) : String :=
  if directory.isEmpty || directory.endsWith "/" then directory ++ name else directory ++ "/" ++ name

/-- The text of a file. -/
def FileAccess.readText {m : Type → Type} [Monad m] (files : FileAccess m) (path : String) :
    m (Except FileError String) := do
  match ← files.read path with
  | .error e => return .error e
  | .ok bytes =>
    match String.fromUTF8? bytes with
    | some text => return .ok text
    | none => return .error .notUtf8

end JsonSchema
