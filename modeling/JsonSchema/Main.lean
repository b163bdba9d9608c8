import JsonSchema.CommandLine.Run

/-!
# The program

Runs the command line on the real file system.
-/

set_option autoImplicit false

namespace JsonSchema

open CommandLine

/-- The reason that an error of the system gives. -/
def FileError.ofSystem : IO.Error → FileError
  | .noFileOrDirectory .. => .notFound
  | .permissionDenied .. => .permissionDenied
  | .inappropriateType _ 20 _ => .notDirectory
  | .inappropriateType _ 21 _ => .isDirectory
  | .resourceExhausted (some _) 40 _ => .tooManyLinks
  | .invalidArgument (some _) 36 _ => .nameTooLong
  | e => .other (toString e)

/-- What an action answers, or why it fails. -/
def tryFile {α : Type} (action : IO α) : IO (Except FileError α) := do
  try return .ok (← action)
  catch e => return .error (.ofSystem e)

def systemFiles : FileAccess IO where
  read path := tryFile (IO.FS.readBinFile path)
  list path := tryFile do
    let directory := (← IO.currentDir) / path
    let entries ← directory.readDir
    entries.toList.mapM fun entry => do
      let kind := match (← entry.path.symlinkMetadata).type with
        | .file => EntryKind.file
        | .dir => .directory
        | .symlink => .symlink
        | .other => .other
      return ⟨entry.fileName, kind⟩

end JsonSchema

open JsonSchema JsonSchema.CommandLine in
def main (arguments : List String) : IO UInt32 := do
  match Request.ofArguments arguments with
  | .error e =>
    IO.eprintln s!"error: {e.message}"
    return ExitCode.usage
  | .ok request =>
    let stdout ← IO.getStdout
    let response ← request.respond systemFiles (← stdout.isTty)
    stdout.putStr response.output
    IO.eprint response.errors
    return response.code
