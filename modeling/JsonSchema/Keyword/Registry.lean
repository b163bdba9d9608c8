import JsonSchema.Keyword.Builtin
import JsonSchema.Keyword.Definition
import JsonSchema.Program.Evaluation
import JsonSchema.Table

/-!
# The registry of keywords

Rules say how keywords check data and stand in groups by the type of data that they concern.  The
registry numbers its rules in the order in which they came in and keeps, beside the groups, what each
keyword's name leads to.
-/

set_option autoImplicit false

namespace JsonSchema

inductive Implementation where
  | builtin (keyword : BuiltinKeyword)
  | custom (definition : KeywordDefinition)

structure Rule where
  keyword : String
  implementation : Implementation
  /-- The keywords that have no rule because this one takes care of them. -/
  implements : List String
  /-- Checks the values of the keyword that are written in schemas. -/
  metaValidator : Option Validator

namespace Rule

def ofBuiltin (keyword : BuiltinKeyword) : Rule :=
  ⟨keyword.name, .builtin keyword, keyword.implements, none⟩

def ofCustom (keyword : String) (definition : KeywordDefinition) (metaValidator : Option Validator) :
    Rule :=
  ⟨keyword, .custom definition, definition.implements, metaValidator⟩

def definition? (r : Rule) : Option KeywordDefinition :=
  match r.implementation with
  | .builtin _ => none
  | .custom definition => some definition

def isCustom (r : Rule) : Bool := r.definition?.isSome

def schemaTypes (r : Rule) : List DataType :=
  match r.implementation with
  | .builtin keyword => keyword.schemaTypes
  | .custom definition => definition.schemaTypes

def allowsData (r : Rule) : Bool :=
  match r.implementation with
  | .builtin keyword => keyword.allowsData
  | .custom definition => definition.allowsData

end Rule

/-- The rules for one type of data, or for all data. -/
structure RuleGroup where
  appliesTo : Option DataType
  /-- The rules with their numbers, which ascend. -/
  numbered : List (Nat × Rule)
  isBuiltin : Bool

namespace RuleGroup

def rules (g : RuleGroup) : List Rule := g.numbered.map Prod.snd

def keywords (g : RuleGroup) : List String := g.rules.map Rule.keyword

def addRule (g : RuleGroup) (number : Nat) (rule : Rule) : RuleGroup :=
  { g with numbered := g.numbered ++ [(number, rule)] }

def dropRule (g : RuleGroup) (number : Nat) : RuleGroup :=
  { g with numbered := g.numbered.filter (·.1 ≠ number) }

end RuleGroup

structure Registry where
  /-- The groups in the order in which they are evaluated. -/
  groups : List RuleGroup
  /-- Where the group of a type stands. -/
  byType : Table (Option DataType) Nat
  /-- The places of a keyword's rule: group and number. -/
  membership : Table String (List (Option DataType × Nat))
  /-- The keywords that take care of a keyword. -/
  implied : Table String (List String)
  /-- Implied keywords that stay known without a keyword that takes care of them. -/
  fixedImplied : List String
  nonValidating : List String
  custom : Table String Rule
  nextNumber : Nat

namespace Registry

def empty : Registry where
  groups := []
  byType := .empty
  membership := .empty
  implied := .empty
  fixedImplied := []
  nonValidating := []
  custom := .empty
  nextNumber := 0

def pushGroup (r : Registry) (appliesTo : Option DataType) (isBuiltin : Bool) : Registry :=
  { r with
    groups := r.groups ++ [⟨appliesTo, [], isBuiltin⟩]
    byType := r.byType.set appliesTo r.groups.length }

/-- The registry with a group for the type, and where that group stands. -/
def withGroup (r : Registry) (appliesTo : Option DataType) : Registry × Nat :=
  match r.byType.get? appliesTo with
  | some i => (r, i)
  | none => (r.pushGroup appliesTo false, r.groups.length)

/-- Adds a rule at the end of the group of a type. -/
def insert (r : Registry) (appliesTo : Option DataType) (rule : Rule) : Registry :=
  let (r, i) := r.withGroup appliesTo
  { r with
    groups := r.groups.modify i (·.addRule r.nextNumber rule)
    membership := r.membership.set rule.keyword
      ((r.membership.get? rule.keyword).getD [] ++ [(appliesTo, r.nextNumber)])
    implied := rule.implements.foldl (fun t name =>
      t.set name (((t.get? name).getD []).insert rule.keyword)) r.implied
    nextNumber := r.nextNumber + 1 }

/-- The registry of the keywords of draft-07. -/
def withBuiltins : Registry :=
  let r := BuiltinKeyword.groups.foldl (fun r (appliesTo, keywords) =>
    keywords.foldl (fun r keyword => r.insert appliesTo (.ofBuiltin keyword))
      (r.pushGroup appliesTo true)) empty
  { r with fixedImplied := r.implied.keys, nonValidating := nonValidatingKeywords }

/-- Adds a custom rule to the groups of the types, or to the group for all data if there are none. -/
def addCustom (r : Registry) (rule : Rule) (types : List DataType) : Registry :=
  let places := if types.isEmpty then [none] else types.map some
  let r := places.foldl (fun r appliesTo => r.insert appliesTo rule) r
  { r with custom := r.custom.set rule.keyword rule }

/-- The groups, with their places found again. -/
def reindex (r : Registry) : Registry :=
  { r with byType := .ofList (r.groups.zipIdx.map fun (g, i) => (g.appliesTo, i)) }

/-- Takes a keyword's rule out of the groups. -/
def dropRules (r : Registry) (keyword : String) : Registry :=
  let places := (r.membership.get? keyword).getD []
  { r with
    groups := places.foldl (fun groups (appliesTo, number) =>
      match r.byType.get? appliesTo with
      | some i => groups.modify i (·.dropRule number)
      | none => groups) r.groups
    membership := r.membership.erase keyword }

/-- Forgets an implied keyword of that name, and the name among those that take care of others; a
keyword that no other takes care of any longer stays known only if it is fixed. -/
def dropImplied (r : Registry) (keyword : String) : Registry :=
  let fixed := r.fixedImplied.erase keyword
  { r with
    fixedImplied := fixed
    implied := (r.implied.erase keyword).filterMap fun name keywords =>
      let rest := keywords.erase keyword
      if rest.isEmpty && !fixed.contains name then none else some rest }

/-- Drops the groups that are empty and not built in. -/
def dropEmptyGroups (r : Registry) : Registry :=
  let kept := r.groups.filter fun g => g.isBuiltin || !g.numbered.isEmpty
  if kept.length = r.groups.length then r else { r with groups := kept }.reindex

/-- Whether a schema may use the keyword without its being reported as unknown. -/
def isKnown (r : Registry) (keyword : String) : Bool :=
  r.membership.contains keyword || r.implied.contains keyword || r.nonValidating.contains keyword ||
    engineKeywords.contains keyword

/-- Whether the keyword has a rule of its own. -/
def hasRule (r : Registry) (keyword : String) : Bool := r.membership.contains keyword

/-- Whether there is something to remove under a name. -/
def holds (r : Registry) (keyword : String) : Bool :=
  r.nonValidating.contains keyword || r.custom.contains keyword || r.membership.contains keyword ||
    r.implied.contains keyword || r.fixedImplied.contains keyword

/-- The registry without a keyword, and whether it held it. -/
def remove (r : Registry) (keyword : String) : Registry × Bool :=
  let removed := r.holds keyword
  let r := { r with
    nonValidating := r.nonValidating.erase keyword
    custom := r.custom.erase keyword }
  (((r.dropRules keyword).dropImplied keyword).dropEmptyGroups, removed)

def group? (r : Registry) (appliesTo : Option DataType) : Option RuleGroup :=
  (r.byType.get? appliesTo).bind (r.groups[·]?)

/-- Every known keyword, sorted and each once. -/
def keywords (r : Registry) : List String :=
  let names := r.membership.keys ++ r.implied.keys ++ r.nonValidating ++ engineKeywords
  names.eraseDups.mergeSort

def groupKeywords (r : Registry) : List (Option DataType × List String) :=
  r.groups.map fun g => (g.appliesTo, g.keywords)

end Registry

end JsonSchema
