import JsonSchema.Proofs.Evaluation.FirstViolation
import JsonSchema.Proofs.Lowering.Schemas
import JsonSchema.Proofs.Registry.Coherence

/-!
# One program for both modes

Whether all violations are wanted is asked when a program runs; on the way to the program only the code
of custom keywords can see the option.  Where it does not look, **a schema lowers to the same program
with the option on and off, and is refused with the same error** (`compileSchema_reporting`).

With `Program.run_modes` this compares the validators that two compilers make of one schema
(`first_of_all_violations`).
-/

set_option autoImplicit false

namespace JsonSchema

/-! ## The option -/

/-- The options, with all violations wanted or not. -/
def Options.reporting (o : Options) (allErrors : Bool) : Options := { o with allErrors }

def Environment.reporting (env : Environment) (allErrors : Bool) : Environment :=
  { env with options := env.options.reporting allErrors }

def Surroundings.reporting (s : Surroundings) (allErrors : Bool) : Surroundings :=
  { s with options := s.options.reporting allErrors }

def KeywordPlace.reporting (p : KeywordPlace) (allErrors : Bool) : KeywordPlace :=
  { p with env := p.env.reporting allErrors }

/-- The code of a custom keyword that does not look at the options. -/
def KeywordDefinition.IgnoresOptions (d : KeywordDefinition) : Prop :=
  ∀ code, d.code = some code → ∀ (view : KeywordView) (options : Options),
    code { view with options } = code view

/-- No code of a custom keyword looks at the options. -/
def Registry.IgnoresOptions (r : Registry) : Prop :=
  ∀ group ∈ r.groups, ∀ rule ∈ group.rules, ∀ d, rule.implementation = .custom d → d.IgnoresOptions

/-- A rule looks at the options only if the definition that it was made of does. -/
theorem Registry.IgnoresOptions.addCustom {r : Registry} {d : KeywordDefinition} (h : r.IgnoresOptions)
    (hr : r.Placed) (hd : d.IgnoresOptions) (name : String) (metaValidator : Option Validator)
    (types : List DataType) : (r.addCustom (.ofCustom name d metaValidator) types).IgnoresOptions := by
  intro group hgroup rule hrule d' hd'
  obtain ⟨⟨number, rule⟩, hnumbered, rfl⟩ := List.mem_map.mp hrule
  have hholds : ∃ place, (r.addCustom (.ofCustom name d metaValidator) types).Holds place rule :=
    ⟨(group.appliesTo, number), group, hgroup, rfl, hnumbered⟩
  rcases (holds_foldl_insert hr (placesOf types)).mp hholds with ⟨place, g, hg, -, hmem⟩ | ⟨-, rfl⟩
  · exact h g hg rule (List.mem_map_of_mem hmem) d' hd'
  · cases hd'
    exact hd

theorem Registry.withBuiltins_ignoresOptions : withBuiltins.IgnoresOptions := by
  have hnone : withBuiltins.custom.keys = [] := by decide +kernel
  intro group hgroup rule hrule d hd
  obtain ⟨⟨number, rule⟩, hnumbered, rfl⟩ := List.mem_map.mp hrule
  have hcustom : rule.isCustom = true := by
    unfold Rule.isCustom Rule.definition?
    rw [hd]
    rfl
  have hget := (withBuiltins_coherent.custom rule.keyword rule).mpr
    ⟨hcustom, rfl, (group.appliesTo, number), group, hgroup, rfl, hnumbered⟩
  have hmem := (Table.mem_keys_iff _ _).mpr ⟨rule, hget⟩
  rw [hnone] at hmem
  cases hmem

/-! ## Keywords -/

/-- The same place under other options. -/
def KeywordPlace.withOptions (p : KeywordPlace) (options : Options) : KeywordPlace :=
  { p with env := { p.env with options } }

namespace KeywordPlace

variable {lower : Lower} {p : KeywordPlace} {options : Options} {allErrors : Bool}

/-- The only question that a keyword of draft-07 asks of the options is what to do about unknown formats. -/
theorem builtin_withOptions (k : BuiltinKeyword)
    (hformat : k = .format → options.ignoreUnknownFormats = p.env.options.ignoreUnknownFormats) :
    (p.withOptions options).builtin lower k = p.builtin lower k := by
  cases k with
  | items =>
    show (p.withOptions options).items lower = p.items lower
    unfold items
    simp only [tupleItems_congr (show (p.withOptions options).position = p.position from rfl)]
    rfl
  | anyOf => exact congrArg (· >>= _) (branches_congr rfl rfl rfl)
  | oneOf => exact congrArg (· >>= _) (branches_congr rfl rfl rfl)
  | allOf => exact branches_congr rfl rfl rfl
  | format =>
    have hasked : (p.withOptions options).env.options.ignoreUnknownFormats =
        p.env.options.ignoreUnknownFormats := hformat rfl
    show liftExcept (p.withOptions options).format = liftExcept p.format
    unfold format
    rw [hasked]
    rfl
  | _ => rfl

theorem custom_withOptions {d : KeywordDefinition} (h : d.IgnoresOptions) :
    (p.withOptions options).custom lower d = p.custom lower d := by
  have hlogic : (p.withOptions options).customLogic lower d = p.customLogic lower d := by
    unfold customLogic
    cases hcode : d.code with
    | some code =>
      have hview : code (p.withOptions options).view = code p.view := h code hcode p.view _
      have hcheck : (p.withOptions options).check = p.check := rfl
      simp only [hview, codeChecks_congr p hcheck]
      rfl
    | none =>
      cases d.validate with
      | some validate => rfl
      | none => cases d.compile <;> cases d.expand <;> rfl
  unfold custom
  rw [hlogic]
  rfl

/-- No keyword of draft-07 asks whether all violations are wanted. -/
theorem builtin_reporting (k : BuiltinKeyword) :
    (p.reporting allErrors).builtin lower k = p.builtin lower k :=
  builtin_withOptions k fun _ => rfl

theorem custom_reporting {d : KeywordDefinition} (h : d.IgnoresOptions) :
    (p.reporting allErrors).custom lower d = p.custom lower d :=
  custom_withOptions h

end KeywordPlace

/-! ## Schemas -/

variable {lower : Lower} {env : Environment} {allErrors : Bool}

/-- The check of a literal value is followed by the same if what comes next is the same. -/
theorem Rule.checkValue_congr {rule : Rule} {path : String} {data : Option DataRef} {value : Option Json}
    {g g' : Unit → LowerM Node} (hg : g () = g' ()) :
    (match (data, value) with
      | (none, some v) => liftExcept (rule.checkValue path v) >>= g
      | _ => g ()) =
    (match (data, value) with
      | (none, some v) => liftExcept (rule.checkValue path v) >>= g'
      | _ => g' ()) := by
  split
  · exact bind_congr fun _ => hg
  · exact hg

theorem Rule.implementation_reporting {rule : Rule}
    (h : ∀ d, rule.implementation = .custom d → d.IgnoresOptions) (members : List (String × Json))
    (position : Position) (data : Option DataRef) :
    (match rule.implementation with
      | .builtin k => do
        return Node.conj (← ((rule.place env members position data).reporting allErrors).builtin lower k)
      | .custom d => do
        return Node.conj (← ((rule.place env members position data).reporting allErrors).custom lower d)) =
    (match rule.implementation with
      | .builtin k => do return Node.conj (← (rule.place env members position data).builtin lower k)
      | .custom d => do return Node.conj (← (rule.place env members position data).custom lower d)) := by
  cases hrule : rule.implementation with
  | builtin k => simp only [KeywordPlace.builtin_reporting]
  | custom d => simp only [KeywordPlace.custom_reporting (h d hrule)]

theorem Rule.lower_reporting {rule : Rule} (h : ∀ d, rule.implementation = .custom d → d.IgnoresOptions)
    (members : List (String × Json)) (position : Position) :
    rule.lower lower (env.reporting allErrors) members position =
      rule.lower lower env members position := by
  unfold Rule.lower
  exact bind_congr fun data => Rule.checkValue_congr (Rule.implementation_reporting h members position data)

variable (hcode : env.registry.IgnoresOptions)

include hcode

theorem lowerObject_reporting (members : List (String × Json)) (position : Position) :
    lowerObject lower (env.reporting allErrors) members position =
      lowerObject lower env members position := by
  have hgroup : ∀ onlyRef, ∀ group ∈ env.registry.groups,
      group.lower lower (env.reporting allErrors) members position onlyRef =
        group.lower lower env members position onlyRef := by
    intro onlyRef group hgroup
    have hrules : (group.present members onlyRef).mapM
          (fun rule => rule.lower lower (env.reporting allErrors) members position) =
        (group.present members onlyRef).mapM fun rule => rule.lower lower env members position :=
      mapM_congr fun rule hrule =>
        Rule.lower_reporting (hcode group hgroup rule (List.mem_of_mem_filter hrule)) members position
    exact congrArg (· >>= _) hrules
  have hgroups : ∀ (onlyRef : Bool) (declared : Option (List DataType)),
      ((env.reporting allErrors).registry.groups.filter (·.concerns declared)).mapM
          (RuleGroup.lower lower (env.reporting allErrors) members position onlyRef) =
        (env.registry.groups.filter (·.concerns declared)).mapM
          (RuleGroup.lower lower env members position onlyRef) := fun onlyRef declared =>
    mapM_congr fun group hmem => hgroup onlyRef group (List.mem_of_mem_filter hmem)
  unfold lowerObject
  simp only [hgroups]
  rfl

/-- **The option leaves no trace in what a schema is lowered to.** -/
theorem lowerSchema_reporting (budget : Nat) :
    lowerSchema (env.reporting allErrors) budget = lowerSchema env budget := by
  induction budget with
  | zero =>
    funext schema position
    rw [lowerSchema, lowerSchema]
  | succ budget ih =>
    funext schema position
    cases schema with
    | bool b => cases b <;> rw [lowerSchema, lowerSchema]
    | obj members =>
      rw [lowerSchema, lowerSchema, ih]
      exact bind_congr fun base => lowerObject_reporting hcode members _
    | _ => rfl

omit hcode

/-! ## Validators -/

theorem lowerProgram_reporting {s : Surroundings} (hcode : s.registry.IgnoresOptions)
    (allErrors : Bool) (schema : Json) :
    lowerProgram (s.reporting allErrors) schema = lowerProgram s schema := by
  unfold lowerProgram
  refine bind_congr fun base => bind_congr fun documents => ?_
  have hcode' : (s.among documents).registry.IgnoresOptions := hcode
  have hsame : lowerSchema ((s.among documents).reporting allErrors) _ = _ :=
    lowerSchema_reporting hcode' (loweringBudget schema documents)
  exact congrFun (congrFun (congrFun hsame schema) ⟨"#", "", 0, base, 0⟩) []

/-- The two compilers refuse a schema with the same error or make the same program of it. -/
theorem compileSchema_reporting {s : Surroundings} (hcode : s.registry.IgnoresOptions)
    (allErrors : Bool) (schema : Json) :
    compileSchema (s.reporting allErrors) schema =
      (compileProgram s schema).map fun program => ⟨program, allErrors⟩ := by
  rw [compileSchema_eq, compileProgram_eq, lowerProgram_reporting hcode]
  cases lowerProgram s schema <;> rfl

/-- **Failing fast is the beginning of all errors.**  A schema is compiled twice, once to fail fast and
    once to report all violations.  Both are refused with the same error, or the validators differ in
    nothing but the mode; and on every value on which collecting all violations ends, both accept it, or
    they reject it with the same first violation and failing fast reports a subsequence of all
    violations. -/
theorem first_of_all_violations {s : Surroundings} (hcode : s.registry.IgnoresOptions) (schema : Json) :
    (compileSchema (s.reporting false) schema).map Validator.program =
        (compileSchema (s.reporting true) schema).map Validator.program ∧
      ∀ fast full, compileSchema (s.reporting false) schema = .ok fast →
        compileSchema (s.reporting true) schema = .ok full → ∀ data, full.validate data ≠ .endless →
        (fast.validate data = .valid ∧ full.validate data = .valid) ∨
          ∃ first rest rest', fast.validate data = .invalid (first :: rest) ∧
            full.validate data = .invalid (first :: rest') ∧
            (first :: rest).Sublist (first :: rest') := by
  rw [compileSchema_reporting hcode, compileSchema_reporting hcode]
  cases compileProgram s schema with
  | error e => exact ⟨rfl, fun fast _ hfast => nomatch hfast⟩
  | ok p =>
    refine ⟨rfl, fun fast full hfast hfull data hends => ?_⟩
    cases hfast
    cases hfull
    simp only [Validator.validate, Bool.not_false, Bool.not_true] at hends ⊢
    rcases p.run_modes data with h | ⟨h, h'⟩ | ⟨first, rest, rest', hsub, h, h'⟩
    · rw [h] at hends
      exact absurd rfl hends
    · rw [h, h']
      exact Or.inl ⟨rfl, rfl⟩
    · rw [h, h']
      exact Or.inr ⟨first, rest, rest', rfl, rfl, List.cons_sublist_cons.mpr hsub⟩

/-- A keyword whose code says that its values are whole numbers, whatever the options. -/
def whole : KeywordDefinition where
  keywords := ["whole"]
  code := some fun _ => .ok [.ok fun data _ => data.int64?.isSome]

/-- The keywords of draft-07 and `whole`. -/
def wholeSurroundings : Surroundings :=
  { Surroundings.plain with registry := Registry.withBuiltins.addCustom (.ofCustom "whole" whole none) [] }

theorem wholeSurroundings_ignoresOptions : wholeSurroundings.registry.IgnoresOptions := by
  refine Registry.withBuiltins_ignoresOptions.addCustom Registry.withBuiltins_coherent.placed ?_ _ _ _
  intro code hcode view options
  cases hcode
  rfl

/-- Two properties, each with two keywords. -/
def wholeNumbers : Json := .obj [("properties", .obj [
  ("a", .obj [("type", "number"), ("whole", true)]),
  ("b", .obj [("type", "number"), ("whole", true)])])]

/-- Of the four violations of a value with two strings, failing fast reports the first. -/
theorem wholeNumbers_first : ∃ fast full first rest',
    compileSchema (wholeSurroundings.reporting false) wholeNumbers = .ok fast ∧
    compileSchema (wholeSurroundings.reporting true) wholeNumbers = .ok full ∧
    fast.validate (.obj [("a", "x"), ("b", "y")]) = .invalid [first] ∧
    full.validate (.obj [("a", "x"), ("b", "y")]) = .invalid (first :: rest') ∧ rest'.length = 3 := by
  have hone : ((compileSchema (wholeSurroundings.reporting false) wholeNumbers).toOption.bind fun v =>
      (v.validate (.obj [("a", "x"), ("b", "y")])).count?) = some 1 := by decide +kernel
  have hfour : ((compileSchema (wholeSurroundings.reporting true) wholeNumbers).toOption.bind fun v =>
      (v.validate (.obj [("a", "x"), ("b", "y")])).count?) = some 4 := by decide +kernel
  obtain ⟨fast, reported, hfast, hreported, hlength⟩ := exists_invalid hone
  obtain ⟨full, collected, hfull, hcollected, hlength'⟩ := exists_invalid hfour
  have hends : full.validate (.obj [("a", "x"), ("b", "y")]) ≠ .endless := by
    rw [hcollected]
    exact nofun
  rcases (first_of_all_violations wholeSurroundings_ignoresOptions wholeNumbers).2 fast full hfast hfull _ hends with
    ⟨-, hvalid⟩ | ⟨first, rest, rest', hreported', hcollected', -⟩
  · rw [hcollected] at hvalid
    cases hvalid
  · rw [hreported] at hreported'
    rw [hcollected] at hcollected'
    obtain rfl := Verdict.invalid.inj hreported'
    obtain rfl := Verdict.invalid.inj hcollected'
    obtain rfl : rest = [] := List.length_eq_zero_iff.mp (by simpa using hlength)
    exact ⟨fast, full, first, rest', hfast, hfull, hreported, hcollected, by simpa using hlength'⟩

end JsonSchema
