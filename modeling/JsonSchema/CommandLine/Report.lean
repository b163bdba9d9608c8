import JsonSchema.CommandLine.Arguments
import JsonSchema.CommandLine.Table
import JsonSchema.DataType
import JsonSchema.Violation

/-!
# Reports

What the commands print, in each of the output formats: as JSON one object a line, as a table, or as
plain lines.
-/

set_option autoImplicit false

namespace JsonSchema.CommandLine

/-- What validation says about a data file. -/
structure FileReport where
  file : String
  violations : List Violation

namespace FileReport

def isValid (r : FileReport) : Bool := r.violations.isEmpty

def toJson (r : FileReport) : Json :=
  .obj [("file", r.file), ("valid", r.isValid), ("errors", .arr (r.violations.map Violation.toJson))]

/-- The way to the data of a violation; the root is a slash. -/
def shownPath (v : Violation) : String := if v.dataPath.isEmpty then "/" else v.dataPath

def rows (r : FileReport) : List (List String) :=
  if r.isValid then [[r.file, "", "", "valid"]]
  else r.violations.map fun v => [r.file, shownPath v, v.keyword, v.message]

def plainLines (r : FileReport) : List String :=
  if r.isValid then [s!"{r.file}: valid"]
  else s!"{r.file}: invalid" ::
    r.violations.map fun v => s!"  {shownPath v} {v.message} ({v.schemaPath})"

end FileReport

/-- The lines of reports on data files. -/
def reportLines (reports : List FileReport) : OutputFormat → List String
  | .json => reports.map fun r => r.toJson.text
  | .table => tableLines ["FILE", "DATA PATH", "KEYWORD", "MESSAGE"] (reports.flatMap FileReport.rows)
  | .pretty => reports.flatMap FileReport.plainLines

/-- A group of keywords by the name of its type. -/
structure KeywordGroup where
  name : String
  keywords : List String

/-- The name of the group for a type of data, or for all. -/
def groupName (appliesTo : Option DataType) : String := (appliesTo.map DataType.name).getD "any"

/-- The lines of a list of keywords. -/
def keywordLines (groups : List KeywordGroup) : OutputFormat → List String
  | .json => groups.map fun g =>
    (Json.obj [("group", g.name), ("keywords", .arr (g.keywords.map Json.str))]).text
  | .table => tableLines ["GROUP", "KEYWORDS"] (groups.map fun g => [g.name, ", ".intercalate g.keywords])
  | .pretty => groups.map fun g => s!"{g.name}: " ++ " ".intercalate g.keywords

end JsonSchema.CommandLine
