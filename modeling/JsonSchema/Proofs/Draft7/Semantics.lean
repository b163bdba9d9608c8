import JsonSchema.Proofs.Json.Pointers
import JsonSchema.Schema.Assertion
import JsonSchema.Store.StrictMode

/-!
# The semantics of draft-07

What it is to satisfy a schema, read off the schema alone.  Nothing here knows of rules, groups, nodes
or the order in which anything is checked: `Satisfies` asks for the declared type and then, keyword by
keyword, for what the keyword says (`Fulfils`).  A keyword speaks of data of its own type and of the
members of the schema that it is defined together with; absent keywords ask for nothing.

The leaf tests — comparing numbers, measuring sizes, matching a pattern, comparing values, checking a
format — are the ones that programs run.

**`$ref` asks for nothing here.**  A schema means what `Satisfies` says only if it refers to nothing,
and `RefFree` says so at every place where a schema can stand.
-/

set_option autoImplicit false

namespace JsonSchema

/-! ## Schemas inside a schema -/

/-- The values that stand where schemas directly inside a schema do. -/
inductive Json.HasSubschema (members : List (String × Json)) : Json → Prop where
  | single {keyword : String} {s : Json} : keyword ∈ schemaKeywords →
      members.lookup keyword = some s → HasSubschema members s
  | listed {keyword : String} {ss : List Json} {s : Json} : keyword ∈ schemaKeywords →
      members.lookup keyword = some (.arr ss) → s ∈ ss → HasSubschema members s
  | named {keyword : String} {ms : List (String × Json)} {m : String × Json} :
      keyword ∈ schemaMapKeywords → members.lookup keyword = some (.obj ms) → m ∈ ms →
      HasSubschema members m.2

/-- No schema, the given one and those inside it, refers to another. -/
inductive RefFree : Json → Prop where
  | obj {members : List (String × Json)} : members.lookup "$ref" = none →
      (∀ s, Json.HasSubschema members s → RefFree s) → RefFree (.obj members)
  | other {s : Json} : s.obj? = none → RefFree s

/-- The members tell that a schema refers to nothing. -/
theorem RefFree.of_members {members : List (String × Json)} (href : members.lookup "$ref" = none)
    (hschemas : ∀ m ∈ members, m.1 ∈ schemaKeywords →
      RefFree m.2 ∧ ∀ ss, m.2 = .arr ss → ∀ s ∈ ss, RefFree s)
    (hmaps : ∀ m ∈ members, m.1 ∈ schemaMapKeywords → ∀ ms, m.2 = .obj ms → ∀ s ∈ ms, RefFree s.2) :
    RefFree (.obj members) := by
  refine .obj href fun s hs => ?_
  cases hs with
  | single hk hl => exact (hschemas _ (mem_of_lookup hl) hk).1
  | listed hk hl hs => exact (hschemas _ (mem_of_lookup hl) hk).2 _ rfl s hs
  | named hk hl hm => exact hmaps _ (mem_of_lookup hl) hk _ rfl _ hm

/-! ## Sizes of what stands inside a schema -/

theorem sizeOf_lt_of_mem_members {members : List (String × Json)} {m : String × Json} (h : m ∈ members) :
    sizeOf m.2 < sizeOf members := by
  have hm := List.sizeOf_lt_of_mem h
  have : sizeOf m = 1 + sizeOf m.1 + sizeOf m.2 := by cases m; simp
  omega

theorem sizeOf_lt_of_lookup {members : List (String × Json)} {name : String} {s : Json}
    (h : members.lookup name = some s) : sizeOf s < sizeOf members :=
  sizeOf_lt_of_mem_members (m := (name, s)) (mem_of_lookup h)

theorem sizeOf_lt_of_listed {members : List (String × Json)} {name : String} {ss : List Json} {s : Json}
    (h : members.lookup name = some (.arr ss)) (hs : s ∈ ss) : sizeOf s < sizeOf members := by
  have hlookup := sizeOf_lt_of_lookup h
  have hmem := List.sizeOf_lt_of_mem hs
  simp only [Json.arr.sizeOf_spec] at hlookup
  omega

theorem sizeOf_lt_of_named {members ms : List (String × Json)} {name : String} {m : String × Json}
    (h : members.lookup name = some (.obj ms)) (hm : m ∈ ms) : sizeOf m.2 < sizeOf members := by
  have hlookup := sizeOf_lt_of_lookup h
  have hmem := sizeOf_lt_of_mem_members hm
  simp only [Json.obj.sizeOf_spec] at hlookup
  omega

/-! ## Satisfying a schema -/

/-- The value is of a type that the schema declares, if it declares any. -/
def IsOfDeclaredType (members : List (String × Json)) (v : Json) : Prop :=
  ∀ t types, members.lookup "type" = some t → DataType.ofJson? t = some types →
    ∃ type ∈ types, type.accepts v = true

/-- The name has a schema of its own in `properties`, or matches a pattern of `patternProperties`. -/
def IsCovered (members : List (String × Json)) (name : String) : Prop :=
  (∃ ms, members.lookup "properties" = some (.obj ms) ∧ name ∈ ms.map Prod.fst) ∨
  (∃ ms, members.lookup "patternProperties" = some (.obj ms) ∧
    ∃ m ∈ ms, ∃ r, Regex.parse? m.1 = some r ∧ r.isMatch name = true)

mutual

/-- Whether a value satisfies a schema. -/
def Satisfies (formats : Formats) : (schema v : Json) → Prop
  | .bool allowed, _ => allowed = true
  | .obj members, v => IsOfDeclaredType members v ∧ ∀ k, Fulfils formats members k v
  | _, _ => False
termination_by schema => sizeOf schema

/-- What one keyword of a schema asks of a value. -/
def Fulfils (formats : Formats) (members : List (String × Json)) : BuiltinKeyword → Json → Prop
  -- numbers
  | .maximum, v => ∀ limit, members.lookup "maximum" = some limit →
      Comparison.atMost.failsOn v limit = false
  | .minimum, v => ∀ limit, members.lookup "minimum" = some limit →
      Comparison.atLeast.failsOn v limit = false
  | .exclusiveMaximum, v => ∀ limit, members.lookup "exclusiveMaximum" = some limit →
      Comparison.below.failsOn v limit = false
  | .exclusiveMinimum, v => ∀ limit, members.lookup "exclusiveMinimum" = some limit →
      Comparison.above.failsOn v limit = false
  | .multipleOf, v => ∀ divisor n, members.lookup "multipleOf" = some divisor → v = .num n →
      isMultipleOf v divisor = true
  | .format, v => ∀ name format, members.lookup "format" = some (.str name) →
      formats.get? name = some format → format.accepts v = true
  -- strings
  | .maxLength, v => ∀ limit, members.lookup "maxLength" = some limit →
      Measure.length.exceeds v limit = false
  | .minLength, v => ∀ limit, members.lookup "minLength" = some limit →
      Measure.length.fallsShortOf v limit = false
  | .pattern, v => ∀ source r text, members.lookup "pattern" = some (.str source) →
      Regex.parse? source = some r → v = .str text → r.isMatch text = true
  -- arrays
  | .maxItems, v => ∀ limit, members.lookup "maxItems" = some limit →
      Measure.items.exceeds v limit = false
  | .minItems, v => ∀ limit, members.lookup "minItems" = some limit →
      Measure.items.fallsShortOf v limit = false
  | .items, v => ∀ vs, v = .arr vs →
      (∀ s, members.lookup "items" = some s → s.arr? = none → ∀ e ∈ vs, Satisfies formats s e) ∧
      (∀ ss, members.lookup "items" = some (.arr ss) →
        (∀ (i : Nat) (s e : Json), ss[i]? = some s → vs[i]? = some e → Satisfies formats s e) ∧
        (∀ s, members.lookup "additionalItems" = some s → ∀ e ∈ vs.drop ss.length,
          Satisfies formats s e))
  | .contains, v => ∀ s vs, members.lookup "contains" = some s → v = .arr vs →
      ∃ e ∈ vs, Satisfies formats s e
  | .uniqueItems, v => ∀ vs, members.lookup "uniqueItems" = some (.bool true) → v = .arr vs →
      vs.Pairwise fun earlier later => later.equal earlier = false
  -- objects
  | .maxProperties, v => ∀ limit, members.lookup "maxProperties" = some limit →
      Measure.properties.exceeds v limit = false
  | .minProperties, v => ∀ limit, members.lookup "minProperties" = some limit →
      Measure.properties.fallsShortOf v limit = false
  | .required, v => ∀ names ms, members.lookup "required" = some (.arr names) → v = .obj ms →
      ∀ name, .str name ∈ names → (ms.lookup name).isSome
  | .dependencies, v => ∀ needs ms, members.lookup "dependencies" = some (.obj needs) → v = .obj ms →
      ∀ need ∈ needs, (ms.lookup need.1).isSome →
        (∀ names, need.2 = .arr names → ∀ name, .str name ∈ names → (ms.lookup name).isSome) ∧
        (need.2.arr? = none → Satisfies formats need.2 v)
  | .propertyNames, v => ∀ s ms, members.lookup "propertyNames" = some s → v = .obj ms →
      ∀ m ∈ ms, Satisfies formats s (.str m.1)
  | .properties, v => ∀ ms, v = .obj ms →
      (∀ schemas, members.lookup "properties" = some (.obj schemas) → ∀ s ∈ schemas, ∀ w,
        ms.lookup s.1 = some w → Satisfies formats s.2 w) ∧
      (∀ schemas, members.lookup "patternProperties" = some (.obj schemas) → ∀ s ∈ schemas, ∀ r,
        Regex.parse? s.1 = some r → ∀ m ∈ ms, r.isMatch m.1 = true → Satisfies formats s.2 m.2) ∧
      (∀ s, members.lookup "additionalProperties" = some s → ∀ m ∈ ms, ¬ IsCovered members m.1 →
        Satisfies formats s m.2)
  -- any data
  | .ref, _ => True
  | .const, v => ∀ allowed, members.lookup "const" = some allowed → v.equal allowed = true
  | .enum, v => ∀ allowed, members.lookup "enum" = some (.arr allowed) →
      ∃ a ∈ allowed, v.equal a = true
  | .not, v => ∀ s, members.lookup "not" = some s → ¬ Satisfies formats s v
  | .anyOf, v => ∀ ss, members.lookup "anyOf" = some (.arr ss) →
      ∃ s, ∃ _ : s ∈ ss, Satisfies formats s v
  | .oneOf, v => ∀ ss, members.lookup "oneOf" = some (.arr ss) →
      ∃ i, ∃ _ : i < ss.length, Satisfies formats ss[i] v ∧
        ∀ j, ∀ _ : j < ss.length, j ≠ i → ¬ Satisfies formats ss[j] v
  | .allOf, v => ∀ ss, members.lookup "allOf" = some (.arr ss) → ∀ s ∈ ss, Satisfies formats s v
  | .ifThenElse, v => ∀ s, members.lookup "if" = some s →
      (Satisfies formats s v → ∀ t, members.lookup "then" = some t → Satisfies formats t v) ∧
      (¬ Satisfies formats s v → ∀ e, members.lookup "else" = some e → Satisfies formats e v)
termination_by sizeOf members
decreasing_by
  all_goals first
    | exact sizeOf_lt_of_lookup (by assumption)
    | exact sizeOf_lt_of_named (by assumption) (by assumption)
    | exact sizeOf_lt_of_listed (by assumption) (by assumption)
    | exact sizeOf_lt_of_listed (by assumption) (List.getElem_mem _)
    | exact sizeOf_lt_of_listed (by assumption) (List.mem_of_getElem? (by assumption))

end

@[simp] theorem satisfies_bool {formats : Formats} {allowed : Bool} {v : Json} :
    Satisfies formats (.bool allowed) v ↔ allowed = true := by
  rw [Satisfies]

end JsonSchema
