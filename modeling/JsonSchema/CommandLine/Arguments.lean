/-!
# Command-line arguments

`Request.ofArguments` reads a command line.  Options stand as `--name value` or `--name=value`, short
ones as `-n value`, `-nvalue` or `-n=value`, and short flags can be run together.  After `--` nothing is
an option.  The options for the output stand before or after the command; none stands twice in one place.
-/

set_option autoImplicit false

namespace JsonSchema.CommandLine

inductive OutputFormat where
  | json
  | table
  | pretty
deriving DecidableEq

def OutputFormat.ofName? : String → Option OutputFormat
  | "json" => some json
  | "table" => some table
  | "pretty" => some pretty
  | _ => none

structure ValidateArguments where
  schema : String
  refs : Option String
  allErrors : Bool
  dataRefs : Bool
  strictKeywords : Bool
  /-- The data files; there is at least one. -/
  data : List String

inductive Command where
  | validate (arguments : ValidateArguments)
  | keywords (group : Option String)
  | version (extended : Bool)

/-- What a command line asks for. -/
inductive Request where
  | run (format : Option OutputFormat) (command : Command)
  | showHelp
  | showVersion

/-- Why a command line is refused. -/
inductive UsageError where
  | unknownArgument (argument : String)
  | unknownCommand (name : String)
  | missingCommand
  | missingArgument (name : String)
  | missingValue (option : String)
  | invalidValue (option value : String)
  | unneededValue (option : String)
  | repeated (option : String)

def UsageError.message : UsageError → String
  | unknownArgument argument => s!"unexpected argument '{argument}' found"
  | unknownCommand name => s!"unrecognized subcommand '{name}'"
  | missingCommand => "a subcommand is required but one was not provided"
  | missingArgument name => s!"the argument '{name}' is required but was not provided"
  | missingValue option => s!"a value is required for '{option}' but none was supplied"
  | invalidValue option value => s!"invalid value '{value}' for '{option}'"
  | unneededValue option => s!"unexpected value for '{option}' found; no more were expected"
  | repeated option => s!"the argument '{option}' cannot be used multiple times"

/-! ## Options -/

structure OptionSpec where
  name : String
  short : Option Char := none
  takesValue : Bool := false
  /-- Whether the option may have a value. -/
  accepts : String → Bool := fun _ => true

def helpOption : OptionSpec := { name := "help", short := some 'h' }

/-- Options that stand before or after the command. -/
def sharedOptions : List OptionSpec := [
  { name := "format", takesValue := true, accepts := fun v => (OutputFormat.ofName? v).isSome },
  { name := "log-format", takesValue := true, accepts := (["text", "json"].contains ·) },
  { name := "log-level", takesValue := true,
    accepts := (["error", "warn", "info", "debug", "trace"].contains ·) },
  helpOption]

def programOptions : List OptionSpec := sharedOptions ++ [{ name := "version", short := some 'V' }]

def validateOptions : List OptionSpec := sharedOptions ++ [
  { name := "schema", short := some 's', takesValue := true, accepts := (!·.isEmpty) },
  { name := "refs", takesValue := true, accepts := (!·.isEmpty) },
  { name := "all-errors" },
  { name := "data-refs" },
  { name := "strict-keywords" }]

def keywordsOptions : List OptionSpec := sharedOptions ++ [{ name := "group", takesValue := true }]

def versionOptions : List OptionSpec := sharedOptions ++ [{ name := "extended" }]

/-! ## Reading -/

/-- A piece of a command line; nothing follows a problem. -/
inductive Piece where
  | option (name value : String)
  | positional (value : String)
  | problem (cause : UsageError)

/-- Whether an argument is one or more options. -/
def looksLikeOption (argument : String) : Bool := argument.startsWith "-" && argument != "-"

/-- The pieces of an option that takes a value, and how many of the next arguments it takes. -/
def valuePieces (spec : OptionSpec) (attached : Option String) (next : Option String) :
    List Piece × Bool :=
  match attached, next with
  | some v, _ => ([.option spec.name v], false)
  | none, some v =>
    if looksLikeOption v then ([.problem (.missingValue spec.name)], false)
    else ([.option spec.name v], true)
  | none, none => ([.problem (.missingValue spec.name)], false)

/-- The pieces of a long option, and whether it takes the next argument. -/
def longPieces (specs : List OptionSpec) (text : List Char) (next : Option String) : List Piece × Bool :=
  let name := String.ofList (text.takeWhile (· ≠ '='))
  let attached := match text.dropWhile (· ≠ '=') with
    | _ :: value => some (String.ofList value)
    | [] => none
  match specs.find? (·.name == name) with
  | none => ([.problem (.unknownArgument ("--" ++ name))], false)
  | some spec =>
    if spec.takesValue then valuePieces spec attached next
    else if attached.isSome then ([.problem (.unneededValue name)], false)
    else ([.option name ""], false)

/-- The pieces of short options, and whether the last one takes the next argument. -/
def shortPieces (specs : List OptionSpec) (next : Option String) : List Char → List Piece × Bool
  | [] => ([], false)
  | c :: rest =>
    match specs.find? (·.short == some c) with
    | none => ([.problem (.unknownArgument ("-" ++ String.singleton c))], false)
    | some spec =>
      if spec.takesValue then
        let attached := match rest with
          | [] => none
          | '=' :: value => some (String.ofList value)
          | value => some (String.ofList value)
        valuePieces spec attached next
      else
        let (pieces, takesNext) := shortPieces specs next rest
        (.option spec.name "" :: pieces, takesNext)

/-- The pieces of arguments up to the first that `isCommand`, and that one with the arguments after it. -/
def pieces (specs : List OptionSpec) (isCommand : String → Bool) :
    List String → List Piece × Option (String × List String)
  | [] => ([], none)
  | "--" :: rest => (rest.map .positional, none)
  | argument :: rest =>
    if isCommand argument then ([], some (argument, rest))
    else if looksLikeOption argument then
      let (first, takesNext) := match argument.toList with
        | '-' :: '-' :: text => longPieces specs text rest.head?
        | text => shortPieces specs rest.head? text.tail
      let (others, command) :=
        match takesNext, rest with
        | true, _ :: rest => pieces specs isCommand rest
        | _, rest => pieces specs isCommand rest
      (first ++ others, command)
    else
      let (others, command) := pieces specs isCommand rest
      (.positional argument :: others, command)

/-- What the pieces of a command line come to. -/
structure Collected where
  options : List (String × String) := []
  positionals : List String := []
  help : Bool := false
  version : Bool := false

namespace Collected

def has (c : Collected) (name : String) : Bool := (c.options.lookup name).isSome

def value? (c : Collected) (name : String) : Option String := c.options.lookup name

end Collected

/-- Takes the pieces in order, up to one that asks for help or for the version. -/
def collect (specs : List OptionSpec) (takesPositionals : Bool) (unexpected : String → UsageError)
    (c : Collected) : List Piece → Except UsageError Collected
  | [] => .ok c
  | .problem cause :: _ => .error cause
  | .positional value :: rest =>
    if !takesPositionals then .error (unexpected value)
    else if value.isEmpty then .error (.invalidValue "DATA" value)
    else collect specs takesPositionals unexpected { c with positionals := c.positionals ++ [value] } rest
  | .option name value :: rest =>
    if name == "help" then .ok { c with help := true }
    else if name == "version" then .ok { c with version := true }
    else if c.has name then .error (.repeated name)
    else if (specs.find? (·.name == name)).all fun spec => !spec.takesValue || spec.accepts value then
      collect specs takesPositionals unexpected { c with options := c.options ++ [(name, value)] } rest
    else .error (.invalidValue name value)

/-- Reads the arguments of a command. -/
def collectCommand (specs : List OptionSpec) (takesPositionals : Bool) (arguments : List String) :
    Except UsageError Collected :=
  collect specs takesPositionals .unknownArgument {} (pieces specs (fun _ => false) arguments).1

def validateArguments (c : Collected) : Except UsageError Command := do
  let some schema := c.value? "schema" | throw (.missingArgument "--schema")
  if c.positionals.isEmpty then throw (.missingArgument "DATA")
  return .validate {
    schema, refs := c.value? "refs", allErrors := c.has "all-errors", dataRefs := c.has "data-refs",
    strictKeywords := c.has "strict-keywords", data := c.positionals }

/-- The output format that is asked for; after the command it counts more. -/
def outputFormat (program command : Collected) : Option OutputFormat :=
  (command.value? "format" <|> program.value? "format").bind OutputFormat.ofName?

def commandNames : List String := ["validate", "keywords", "version"]

/-- Reads what follows a command's name. -/
def readCommand (program : Collected) (name : String) (arguments : List String) :
    Except UsageError Request := do
  let finish (c : Collected) (command : Except UsageError Command) : Except UsageError Request := do
    if c.help then return .showHelp
    return .run (outputFormat program c) (← command)
  match name with
  | "validate" =>
    let c ← collectCommand validateOptions true arguments
    finish c (validateArguments c)
  | "keywords" =>
    let c ← collectCommand keywordsOptions false arguments
    finish c (.ok (.keywords (c.value? "group")))
  | "version" =>
    let c ← collectCommand versionOptions false arguments
    finish c (.ok (.version (c.has "extended")))
  | _ =>
    match arguments.find? fun a => !("help" :: commandNames).contains a with
    | some unknown => throw (.unknownCommand unknown)
    | none => return .showHelp

/-- Reads a command line, without the program's name. -/
def Request.ofArguments (arguments : List String) : Except UsageError Request := do
  let (pieces, command) := pieces programOptions ("help" :: commandNames).contains arguments
  let program ← collect programOptions false .unknownCommand {} pieces
  if program.help then return .showHelp
  if program.version then return .showVersion
  match command with
  | some (name, rest) => readCommand program name rest
  | none => throw .missingCommand

end JsonSchema.CommandLine
