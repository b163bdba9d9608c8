import JsonSchema.Program.Node

/-!
# Running programs

A run takes the violations recorded so far and answers whether the data passed, with the violations
recorded now.  In fail-fast mode a conjunction ends with its first failure.  A branch that turns out
not to matter takes its violations back.

Calls have a budget.  A call that comes back to the same procedure at the same location would go on
for ever; one that does not is never deeper than `Program.callBudget`, so that the answer `none` means
that the run does not end.
-/

set_option autoImplicit false

namespace JsonSchema

/-- A run: `none` if it does not end. -/
abbrev Run := List Violation → Option (Bool × List Violation)

namespace Run

/-- Passes or fails and records nothing. -/
def done (valid : Bool) : Run := fun errors => some (valid, errors)

/-- All of the runs, in order; in fail-fast mode up to the first that fails. -/
def every (failFast : Bool) : List Run → Run
  | [], errors => some (true, errors)
  | r :: rest, errors =>
    match r errors with
    | none => none
    | some (true, errors) => every failFast rest errors
    | some (false, errors) =>
      if failFast then some (false, errors)
      else (every failFast rest errors).map fun result => (false, result.2)

/-- The runs in order up to the first that passes; whether there is one. -/
def untilPass : List Run → Run
  | [], errors => some (false, errors)
  | r :: rest, errors =>
    match r errors with
    | none => none
    | some (true, errors) => some (true, errors)
    | some (false, errors) => untilPass rest errors

/-- The numbers of the runs that pass, up to the second of them. -/
def passing (found : List Nat) (number : Nat) : List Run → List Violation →
    Option (List Nat × List Violation)
  | [], errors => some (found, errors)
  | r :: rest, errors =>
    match r errors with
    | none => none
    | some (true, errors) =>
      if found.isEmpty then passing [number] (number + 1) rest errors
      else some (found ++ [number], errors)
    | some (false, errors) => passing found (number + 1) rest errors

end Run

namespace ErrorSite

/-- Records a violation with the given wording. -/
def record (site : ErrorSite) (l : Location) (params : Json) (message : String)
    (errors : List Violation) : List Violation :=
  errors ++ [⟨site.keyword, l.dataPath, site.schemaPath, params, message⟩]

/-- Records a violation worded by the site. -/
def report (site : ErrorSite) (l : Location) (schema data : Json) (errors : List Violation) :
    List Violation :=
  site.record l (site.text.params schema data) (site.text.message schema data) errors

/-- Fails with a violation about the data itself. -/
def fail (site : ErrorSite) (l : Location) : Run := fun errors =>
  some (false, site.report l site.schema l.value errors)

end ErrorSite

namespace Check

/-- Tests the data against a value of the keyword. -/
def test (c : Check) (l : Location) (schema : Json) : Run := fun errors =>
  if c.fails l.value schema then some (false, c.site.report l schema l.value errors)
  else some (true, errors)

/-- A reference that leads nowhere leaves the keyword unchecked; one that leads to a value of a wrong
type is a violation. -/
def run (c : Check) (l : Location) : Run := fun errors =>
  match c.value with
  | .literal v => c.test l v errors
  | .data r =>
    match r.resolve? l with
    | none => some (true, errors)
    | some v =>
      if DataType.anyAccepts c.expects v then c.test l v errors
      else
        some (false, c.site.record l (.obj [("$data", r.pointer)])
          s!"{c.site.keyword} value from $data should be {DataType.listText c.expects}" errors)

end Check

namespace Location

/-- The members of an object that a filter chooses, as locations with their names. -/
def selected (l : Location) (filter : PropertyFilter) : List (String × Location) :=
  match l.value with
  | .obj members =>
    (members.filter fun m => filter.selects m.1).map fun m => (m.1, child l (.key m.1) m.2)
  | _ => []

end Location

namespace Node

mutual

/-- Runs a node at a location, given how to call a procedure. -/
def run (call : Nat → Location → Run) (failFast : Bool) : Node → Location → Run
  | pass, _ => Run.done true
  | all nodes, l => Run.every failFast (runs call failFast nodes l)
  | reject site, l => site.fail l
  | guard group body, l =>
    if group.accepts l.value then run call failFast body l else Run.done true
  | type types site, l =>
    if types.any (·.accepts l.value) then Run.done true else site.fail l
  | check c, l => c.run l
  | Node.call procedure, l => call procedure l
  | descend step body, l =>
    match step.child? l.value with
    | some v => run call failFast body (.child l step v)
    | none => Run.done true
  | items start body, l =>
    match l.value with
    | .arr vs =>
      Run.every failFast ((l.elements start (vs.drop start)).map fun e => run call failFast body e)
    | _ => Run.done true
  | properties filter body, l =>
    Run.every failFast ((l.selected filter).map fun m => run call failFast body m.2)
  | noProperties filter site, l =>
    Run.every failFast ((l.selected filter).map fun m errors =>
      some (false, site.report l site.schema (.str m.1) errors))
  | propertyNames body site, l =>
    match l.value with
    | .obj members =>
      Run.every failFast (members.map fun m errors =>
        match run call failFast body (l.withValue (.str m.1)) errors with
        | none => none
        | some (true, errors) => some (true, errors)
        | some (false, errors) => some (false, site.report l site.schema (.str m.1) errors))
    | _ => Run.done true
  | ifPresent name body, l =>
    if (l.value.get? name).isSome then run call failFast body l else Run.done true
  | contains body site, l => fun errors =>
    match l.value with
    | .arr vs =>
      match Run.untilPass ((l.elements 0 vs).map fun e => run call failFast body e) errors with
      | none => none
      | some (found, after) =>
        let errors := after.take errors.length
        if found then some (true, errors) else site.fail l errors
    | _ => some (true, errors)
  | anyOf branches site, l => fun errors =>
    match Run.untilPass (runs call failFast branches l) errors with
    | none => none
    | some (true, after) => some (true, after.take errors.length)
    | some (false, after) => site.fail l after
  | oneOf branches site, l => fun errors =>
    match Run.passing [] 0 (runs call failFast branches l) errors with
    | none => none
    | some ([_], after) => some (true, after.take errors.length)
    | some (found, after) =>
      let passing := if found.isEmpty then .null else .arr (found.map fun i => .num (.ofNat i))
      some (false, site.record l (.obj [("passingSchemas", passing)])
        (site.text.message site.schema l.value) after)
  | not body site, l => fun errors =>
    match run call failFast body l errors with
    | none => none
    | some (matched, after) =>
      let errors := after.take errors.length
      if matched then site.fail l errors else some (true, errors)
  | ifThenElse condition thenBranch elseBranch site, l => fun errors =>
    match run call failFast condition l errors with
    | none => none
    | some (matched, after) =>
      let errors := after.take errors.length
      let keyword := if matched then "then" else "else"
      let result :=
        if matched then run call failFast thenBranch l errors
        else run call failFast elseBranch l errors
      match result with
      | none => none
      | some (true, errors) => some (true, errors)
      | some (false, errors) =>
        some (false, site.record l (.obj [("failingKeyword", keyword)])
          s!"should match \"{keyword}\" schema" errors)

/-- The runs of several nodes at one location. -/
def runs (call : Nat → Location → Run) (failFast : Bool) : List Node → Location → List Run
  | [], _ => []
  | n :: rest, l => run call failFast n l :: runs call failFast rest l

end

end Node

mutual

/-- How many arrays and objects stand inside each other. -/
def Json.depth : Json → Nat
  | .arr items => Json.depthItems items + 1
  | .obj members => Json.depthMembers members + 1
  | _ => 0

def Json.depthItems : List Json → Nat
  | [] => 0
  | v :: rest => max v.depth (Json.depthItems rest)

def Json.depthMembers : List (String × Json) → Nat
  | [] => 0
  | (_, v) :: rest => max v.depth (Json.depthMembers rest)

end

namespace Program

/-- Calls a procedure, with a budget of calls inside each other. -/
def call (p : Program) (failFast : Bool) : (budget : Nat) → Nat → Location → Run
  | 0, _, _ => fun _ => none
  | budget + 1, procedure, l =>
    match p.procedures[procedure]? with
    | some body => body.run (p.call failFast budget) failFast l
    | none => Run.done true

/-- The calls that can be inside each other before one comes back to its procedure and location: one
of each procedure at each location on the way down, the last of which may be a name. -/
def callBudget (p : Program) (data : Json) : Nat := p.procedures.length * (data.depth + 2)

/-- Runs a program on data. -/
def run (p : Program) (failFast : Bool) (data : Json) : Option (Bool × List Violation) :=
  p.root.run (p.call failFast (p.callBudget data)) failFast (.root data) []

end Program

/-- What a validator says about data. -/
inductive Verdict where
  | valid
  | invalid (violations : List Violation)
  /-- References lead around without end. -/
  | endless

/-- A compiled schema, and whether it reports all violations or the first. -/
structure Validator where
  program : Program
  allErrors : Bool

namespace Validator

def validate (v : Validator) (data : Json) : Verdict :=
  match v.program.run (!v.allErrors) data with
  | some (true, _) => .valid
  | some (false, errors) => .invalid errors
  | none => .endless

/-- Whether the data passes; this stops at the first violation in either mode. -/
def isValid (v : Validator) (data : Json) : Bool :=
  match v.program.run true data with
  | some (valid, _) => valid
  | none => false

end Validator

end JsonSchema
