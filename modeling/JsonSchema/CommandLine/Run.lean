import JsonSchema.CommandLine.Report
import JsonSchema.Store.Directory

/-!
# Running commands

A command either prints lines and ends with a code, or fails with a code and one message.  Nothing is
printed before everything has been read.
-/

set_option autoImplicit false

namespace JsonSchema.CommandLine

def programName : String := "schemac"

def programVersion : String := "0.2.1"

/-! ## How a command ends -/

namespace ExitCode

def success : UInt32 := 0
def failure : UInt32 := 1
def permissionDenied : UInt32 := 50
/-- Some data is invalid, or no JSON. -/
def dataInvalid : UInt32 := 60
def usage : UInt32 := 64
/-- The schema cannot be used. -/
def schemaError : UInt32 := 65

end ExitCode

inductive Failure where
  | file (path : String) (cause : FileError)
  | invalidSchemaText (path : String)
  | invalidDataText (path : String)
  | load (cause : StoreError)
  | compile (cause : SchemaError)
  | unknownGroup (name : String)
  /-- References in the schema lead around without end. -/
  | endless (path : String)

namespace Failure

def message : Failure → String
  | file path cause => s!"{path}: {cause.message}"
  | invalidSchemaText path | invalidDataText path => s!"{path}: invalid JSON"
  | load cause => s!"schema load failed: {cause.message}"
  | compile cause => s!"schema compile failed: {cause.message}"
  | unknownGroup name => s!"no keyword group named {name}"
  | endless path => s!"{path}: the schema's references lead around without end"

def code : Failure → UInt32
  | file _ .notFound => ExitCode.usage
  | file _ .permissionDenied => ExitCode.permissionDenied
  | file _ _ => ExitCode.failure
  | invalidDataText _ => ExitCode.dataInvalid
  | invalidSchemaText _ | load _ | compile _ => ExitCode.schemaError
  | unknownGroup _ => ExitCode.usage
  | endless _ => ExitCode.failure

end Failure

/-- What a command does to the outside. -/
structure Response where
  code : UInt32
  lines : List String := []
  failure : Option Failure := none

/-- The text on the standard output. -/
def Response.output (r : Response) : String := String.join (r.lines.map (· ++ "\n"))

/-- The text on the standard error output. -/
def Response.errors (r : Response) : String :=
  match r.failure with
  | some f => s!"error: {f.message}\n"
  | none => ""

def Response.ofFailure (f : Failure) : Response := { code := f.code, failure := some f }

variable {m : Type → Type} [Monad m]

/-! ## Validating files -/

/-- The value in a file. -/
def readJson (files : FileAccess m) (path : String) (invalid : Failure) : m (Except Failure Json) := do
  match ← files.readText path with
  | .error e => return .error (.file path e)
  | .ok text => return match Json.parse? text with
    | some v => .ok v
    | none => .error invalid

/-- A compiler that knows the documents of a directory, if one is named. -/
def compilerWith (files : FileAccess m) (options : Options) :
    (refs : Option String) → m (Except Failure Compiler)
  | none => return .ok (.new options)
  | some directory => do
    match ← SchemaStore.ofDirectory files directory {} with
    | .error e => return .error (.load e)
    | .ok store =>
      return match store.install (.new options) with
        | (c, .ok _) => .ok c
        | (_, .error e) => .error (.load (.schema e))

/-- Validates data files in order. -/
def reports (files : FileAccess m) (v : Validator) (done : List FileReport) :
    List String → m (Except Failure (List FileReport))
  | [] => return .ok done
  | path :: rest => do
    match ← readJson files path (.invalidDataText path) with
    | .error f => return .error f
    | .ok data =>
      match v.validate data with
      | .valid => reports files v (done ++ [⟨path, []⟩]) rest
      | .invalid violations => reports files v (done ++ [⟨path, violations⟩]) rest
      | .endless => return .error (.endless path)

/-- The reports on the data files of a command, once the schema has been compiled. -/
def validateFiles (files : FileAccess m) (a : ValidateArguments) : m (Except Failure (List FileReport)) := do
  let options : Options := {
    allErrors := a.allErrors, data := a.dataRefs, strictKeywords := a.strictKeywords }
  match ← compilerWith files options a.refs with
  | .error f => return .error f
  | .ok compiler =>
    match ← readJson files a.schema (.invalidSchemaText a.schema) with
    | .error f => return .error f
    | .ok schema =>
      match compiler.compile schema with
      | .error e => return .error (.compile e)
      | .ok validator => reports files validator [] a.data

def validate (files : FileAccess m) (a : ValidateArguments) (format : OutputFormat) : m Response := do
  match ← validateFiles files a with
  | .error f => return .ofFailure f
  | .ok reports =>
    return {
      code := if reports.all FileReport.isValid then ExitCode.success else ExitCode.dataInvalid
      lines := reportLines reports format }

/-! ## The other commands -/

/-- Lists the groups of keywords, or the one of a name. -/
def keywords (group : Option String) (format : OutputFormat) : Response :=
  let groups := Registry.withBuiltins.groupKeywords.map fun (t, names) => ⟨groupName t, names⟩
  match group with
  | none => { code := ExitCode.success, lines := keywordLines groups format }
  | some name =>
    match groups.filter fun (g : KeywordGroup) => g.name == name with
    | [] => .ofFailure (.unknownGroup name)
    | wanted => { code := ExitCode.success, lines := keywordLines wanted format }

def versionLine : String := s!"{programName} {programVersion}"

def version (extended : Bool) : Response :=
  { code := ExitCode.success
    lines :=
      if extended then [s!"name: {programName}", s!"version: {programVersion}"] else [versionLine] }

def helpLines : List String := [
  s!"Usage: {programName} [OPTIONS] <COMMAND>",
  "",
  "Commands:",
  "  validate  Validate data files against a schema",
  "  keywords  List registered keywords by data type group",
  "  version   Show version information"]

/-- Does what a command line asks for; on a terminal, tables are the default. -/
def Request.respond (files : FileAccess m) (isTerminal : Bool) : Request → m Response
  | .showHelp => return { code := ExitCode.success, lines := helpLines }
  | .showVersion => return { code := ExitCode.success, lines := [versionLine] }
  | .run format command =>
    let format := format.getD (if isTerminal then .table else .json)
    match command with
    | .validate a => CommandLine.validate files a format
    | .keywords group => return CommandLine.keywords group format
    | .version extended => return CommandLine.version extended

end JsonSchema.CommandLine
