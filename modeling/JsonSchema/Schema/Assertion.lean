import JsonSchema.Json.Equal
import JsonSchema.Schema.Place

/-!
# Keywords that check data against their values

These keywords have no subschemas.  Numbers compare as doubles, lengths count Unicode scalar values, and
data of another type than the keyword's passes.
-/

set_option autoImplicit false

namespace JsonSchema

/-! ## Limits on numbers -/

inductive Comparison where
  | atMost
  | atLeast
  | below
  | above

namespace Comparison

def symbol : Comparison → String
  | atMost => "<="
  | atLeast => ">="
  | below => "<"
  | above => ">"

def holds : Comparison → (x limit : Binary64) → Bool
  | atMost, x, limit => x.le limit
  | atLeast, x, limit => limit.le x
  | below, x, limit => x.lt limit
  | above, x, limit => limit.lt x

/-- Whether data is a number beyond the limit. -/
def failsOn (c : Comparison) (data limit : Json) : Bool :=
  match data.double?, limit.double? with
  | some x, some limit => !c.holds x limit
  | _, _ => false

def text (c : Comparison) : ErrorText where
  message limit _ := s!"should be {c.symbol} {limit.text}"
  params limit _ := .obj [("comparison", c.symbol), ("limit", limit)]

end Comparison

/-- Whether data is a multiple of a positive divisor.  Two integers are compared exactly; otherwise the
quotient of the doubles, rounded to a double, has to be whole. -/
def isMultipleOf (data divisor : Json) : Bool :=
  let asDoubles :=
    match data.double?, divisor.double? with
    | some x, some m => Binary64.zero.lt m && (x.div? m).any Binary64.isWhole
    | _, _ => true
  match data.int64?, divisor.int64? with
  | some x, some m => if 0 < m then x % m == 0 else asDoubles
  | _, _ => asDoubles

/-! ## Limits on sizes -/

/-- What a keyword that limits a size measures. -/
inductive Measure where
  | length
  | items
  | properties

namespace Measure

def size? : Measure → Json → Option Nat
  | length, .str s => some s.length
  | items, .arr vs => some vs.length
  | properties, .obj members => some members.length
  | _, _ => none

/-- Whether data is larger than the limit. -/
def exceeds (m : Measure) (data limit : Json) : Bool :=
  match m.size? data, limit.double? with
  | some n, some limit => limit.lt (.ofInt n)
  | _, _ => false

/-- Whether data is smaller than the limit. -/
def fallsShortOf (m : Measure) (data limit : Json) : Bool :=
  match m.size? data, limit.double? with
  | some n, some limit => (Binary64.ofInt n).lt limit
  | _, _ => false

def limitText (message : String → String) : ErrorText where
  message limit _ := message limit.text
  params limit _ := .obj [("limit", limit)]

def maximumText : Measure → ErrorText
  | length => limitText fun limit => s!"should NOT be longer than {limit} characters"
  | items => limitText fun limit => s!"should NOT have more than {limit} items"
  | properties => limitText fun limit => s!"should NOT have more than {limit} properties"

def minimumText : Measure → ErrorText
  | length => limitText fun limit => s!"should NOT be shorter than {limit} characters"
  | items => limitText fun limit => s!"should NOT have fewer than {limit} items"
  | properties => limitText fun limit => s!"should NOT have fewer than {limit} properties"

end Measure

/-! ## Duplicates -/

/-- Of elements listed from the last to the first, the numbers of the first element that equals one
after it and of the nearest such one. -/
def duplicateAmong : List Json → Option (Nat × Nat)
  | [] => none
  | v :: earlier =>
    match earlier.findIdx? (v.equal ·) with
    | some k => some (earlier.length, earlier.length - 1 - k)
    | none => duplicateAmong earlier

/-- The numbers `(i, j)`, `j < i`, of the last two equal elements of an array. -/
def lastDuplicate? (data : Json) : Option (Nat × Nat) :=
  data.arr?.bind fun items => duplicateAmong items.reverse

def duplicateText : ErrorText where
  message _ data :=
    match lastDuplicate? data with
    | some (i, j) => s!"should NOT have duplicate items (items ## {j} and {i} are identical)"
    | none => "should NOT have duplicate items"
  params _ data :=
    match lastDuplicate? data with
    | some (i, j) => .obj [("i", i), ("j", j)]
    | none => .obj []

namespace KeywordPlace

/-- The names in a list of property names. -/
def propertyNames (p : KeywordPlace) (names : Json) : Except SchemaError (List String) :=
  (names.arr?.getD []).mapM fun
    | .str name => .ok name
    | _ => .error (p.error "items should be strings")

/-- Whether data is an object without a member of the name. -/
def lacks (name : String) (data : Json) : Bool := data.obj?.isSome && (data.get? name).isNone

/-! ## The keywords -/

def limit (p : KeywordPlace) (c : Comparison) : Node := p.check c.text c.failsOn

def maximumSize (p : KeywordPlace) (m : Measure) : Node := p.check m.maximumText m.exceeds

def minimumSize (p : KeywordPlace) (m : Measure) : Node := p.check m.minimumText m.fallsShortOf

def multipleOf (p : KeywordPlace) : Except SchemaError Node := do
  if p.data.isNone && !p.schema.double?.any Binary64.zero.lt then
    throw (p.error "value should be greater than 0")
  return p.check
    { message := fun divisor _ => s!"should be multiple of {divisor.text}"
      params := fun divisor _ => .obj [("multipleOf", divisor)] }
    fun data divisor => !isMultipleOf data divisor

/-- A pattern from the data that is no regular expression leaves the keyword unchecked. -/
def pattern (p : KeywordPlace) : Except SchemaError Node := do
  let text : ErrorText := {
    message := fun pattern _ => "should match pattern \"" ++ pattern.str?.getD "" ++ "\""
    params := fun pattern _ => .obj [("pattern", pattern)] }
  if p.data.isSome then
    return p.check text fun data pattern =>
      match data.str?, pattern.str?.bind Regex.parse? with
      | some s, some r => !r.isMatch s
      | _, _ => false
  let source := p.schema.str?.getD ""
  let some r := Regex.parse? source | throw (.invalidRegex source p.schemaPath)
  return p.check text fun data _ => data.str?.any (!r.isMatch ·)

def format (p : KeywordPlace) : Except SchemaError (List Node) := do
  let name := p.schema.str?.getD ""
  match p.env.formats.get? name with
  | some format =>
    return [p.check
      { message := fun name _ => "should match format \"" ++ name.str?.getD "" ++ "\""
        params := fun name _ => .obj [("format", name)] }
      fun data _ => !format.accepts data]
  | none =>
    if p.env.options.ignoreUnknownFormats then return []
    else throw (.unknownFormat name p.schemaPath)

def uniqueItems (p : KeywordPlace) : Node :=
  p.check duplicateText fun data unique =>
    (unique.bool?.getD false) && (lastDuplicate? data).isSome

/-- One check for each name, so that each missing property is reported. -/
def required (p : KeywordPlace) : Except SchemaError (List Node) := do
  let names ← p.propertyNames p.schema
  return names.map fun name =>
    dataCheck
      (p.site (.fixed s!"should have required property '{name}'"
        (.obj [("missingProperty", .str name)])))
      (lacks name)

def constant (p : KeywordPlace) : Node :=
  p.check
    { message := fun _ _ => "should be equal to constant"
      params := fun allowed _ => .obj [("allowedValue", allowed)] }
    fun data allowed => !data.equal allowed

def enumeration (p : KeywordPlace) : Node :=
  p.check
    { message := fun _ _ => "should be equal to one of the allowed values"
      params := fun allowed _ => .obj [("allowedValues", allowed)] }
    fun data allowed => !(allowed.arr?.getD []).any (data.equal ·)

end KeywordPlace

end JsonSchema
