import JsonSchema.Proofs.Registry.Extension

/-!
# Adding a keyword leaves other schemas alone

A compiler comes to a keyword when it compiles a schema if, anywhere in the schema or behind its
references, it compiles an object that has it (`Compiler.ComesTo`).  A schema that does without a keyword
in this sense, and without those that the keyword takes care of, compiles as before once the keyword has
been added.

Main statement: `addKeyword_conservative`.
-/

set_option autoImplicit false

namespace JsonSchema

/-- Does what `lowerProgram` does, with an alarm for objects with one of the names. -/
def lowerProgramUntil (s : Surroundings) (names : List String) (alarm : SchemaError) (schema : Json) :
    Except SchemaError (Node × List Procedure) := do
  let base ← schemaBase schema defaultBase
  let documents ← Documents.visibleFrom schema base s.cache
  lowerUntil ⟨s.registry, s.options, s.formats, documents⟩ names alarm (loweringBudget schema documents)
    schema ⟨"#", "", 0, base, 0⟩ []

theorem lowerProgramUntil_cases (s : Surroundings) (names : List String) (alarm : SchemaError)
    (schema : Json) : lowerProgramUntil s names alarm schema = .error alarm ∨
      lowerProgramUntil s names alarm schema = lowerProgram s schema := by
  unfold lowerProgramUntil lowerProgram
  simp only [bind, Except.bind]
  cases schemaBase schema defaultBase with
  | error e => exact .inr rfl
  | ok base =>
    dsimp only
    cases Documents.visibleFrom schema base s.cache with
    | error e => exact .inr rfl
    | ok documents => exact lowerUntil_cases _ _ _ _

theorem lowerProgramUntil_addCustom (s : Surroundings) (rule : Rule) (types : List DataType)
    (alarm : SchemaError) (schema : Json) :
    lowerProgramUntil { s with registry := s.registry.addCustom rule types }
        (rule.keyword :: rule.implements) alarm schema =
      lowerProgramUntil s (rule.keyword :: rule.implements) alarm schema := by
  unfold lowerProgramUntil
  refine bind_congr fun base => bind_congr fun documents => ?_
  have hsame := lowerUntil_addCustom ⟨s.registry, s.options, s.formats, documents⟩ s.registry rule types
    alarm
  exact congrFun (congrFun (congrFun (hsame _) _) _) _

namespace Compiler

/-- Compiling the schema comes to an object with one of the names: whatever the alarm, it ends with it. -/
def ComesTo (c : Compiler) (names : List String) (schema : Json) : Prop :=
  ∀ alarm, lowerProgramUntil c.surroundings names alarm schema = .error alarm

variable {c c' : Compiler} {name : String} {definition : KeywordDefinition} {checked : Bool}

theorem addKeyword_options (h : c.addKeyword name definition checked = .ok c') :
    c'.options = c.options := by
  obtain ⟨_, _, -, -, rfl⟩ := addKeyword_eq_ok h
  rfl

/-- Watching for a keyword, and for those that it takes care of, sees nothing of its addition. -/
theorem lowerProgramUntil_addKeyword (h : c.addKeyword name definition checked = .ok c')
    (alarm : SchemaError) (schema : Json) :
    lowerProgramUntil c'.surroundings (name :: definition.implements) alarm schema =
      lowerProgramUntil c.surroundings (name :: definition.implements) alarm schema := by
  obtain ⟨definition', registry, himplements, hregister, rfl⟩ := addKeyword_eq_ok h
  obtain ⟨-, metaValidator, rfl⟩ := register_eq_ok hregister
  rw [← himplements]
  exact lowerProgramUntil_addCustom c.surroundings (.ofCustom name definition' metaValidator)
    definition'.types alarm schema

/-- Compiling a schema depends on the options and on what the schema is lowered to. -/
theorem compile_congr {schema : Json} (hoptions : c'.options = c.options)
    (h : lowerProgram c'.surroundings schema = lowerProgram c.surroundings schema) :
    c'.compile schema = c.compile schema := by
  show compileSchema c'.surroundings schema = compileSchema c.surroundings schema
  unfold compileSchema
  rw [compileProgram_eq, compileProgram_eq, h,
    show c'.surroundings.options = c.surroundings.options from hoptions]

end Compiler

/-- **Adding a keyword is conservative**: compiling any schema comes to an object with the keyword, or with
    one that it takes care of, after the addition exactly if it did before, and if it does not, the schema is
    refused with the same error as before or compiles to the same validator, which gives every value the
    same result and the same violations. -/
theorem addKeyword_conservative {c c' : Compiler} {name : String} {definition : KeywordDefinition}
    {checked : Bool} (h : c.addKeyword name definition checked = .ok c') (schema : Json) :
    (c'.ComesTo (name :: definition.implements) schema ↔ c.ComesTo (name :: definition.implements) schema) ∧
      (¬c.ComesTo (name :: definition.implements) schema → c'.compile schema = c.compile schema) := by
  have hsame := Compiler.lowerProgramUntil_addKeyword h
  refine ⟨forall_congr' fun alarm => by rw [hsame], fun hnot => ?_⟩
  -- the alarm that is not raised before is not raised after either, and then both are what lowering does
  obtain ⟨alarm, hbefore⟩ := not_forall.mp hnot
  have hafter := hbefore
  rw [← hsame] at hafter
  replace hbefore := (lowerProgramUntil_cases _ _ alarm schema).resolve_left hbefore
  replace hafter := (lowerProgramUntil_cases _ _ alarm schema).resolve_left hafter
  refine Compiler.compile_congr (Compiler.addKeyword_options h) ?_
  rw [← hbefore, ← hafter, hsame]

/-- A schema that mentions the keyword "blank" and one that it takes care of, but where no reference leads. -/
def unblanked : Json := .obj [
  ("definitions", .obj [
    ("name", .obj [("type", "string")]),
    ("hole", .obj [("blank", true), ("nil", .null)])]),
  ("properties", .obj [
    ("first", .obj [("$ref", "#/definitions/name")]),
    ("rest", .obj [("items", .obj [("$ref", "#/definitions/name")])])])]

/-- A schema that leads to no object with the keyword that is added compiles as before. -/
theorem unblanked_same : ∃ c', (Compiler.new {}).addKeyword "blank" blank true = .ok c' ∧
    ¬(Compiler.new {}).ComesTo ("blank" :: blank.implements) unblanked ∧
    ((Compiler.new {}).compile unblanked).toOption.isSome ∧
    c'.compile unblanked = (Compiler.new {}).compile unblanked := by
  have hadded : ((Compiler.new {}).addKeyword "blank" blank true).toOption.isSome = true := by
    decide +kernel
  have hquiet : ¬(Compiler.new {}).ComesTo ("blank" :: blank.implements) unblanked := by
    intro h
    have hlowered : (lowerProgramUntil (Compiler.new {}).surroundings ("blank" :: blank.implements)
        .tooDeep unblanked).toOption.isSome = true := by decide +kernel
    rw [h .tooDeep] at hlowered
    cases hlowered
  have hcompiled : ((Compiler.new {}).compile unblanked).toOption.isSome = true := by decide +kernel
  cases hc : (Compiler.new {}).addKeyword "blank" blank true with
  | error e =>
    rw [hc] at hadded
    cases hadded
  | ok c' => exact ⟨c', rfl, hquiet, hcompiled, (addKeyword_conservative hc unblanked).2 hquiet⟩

end JsonSchema
