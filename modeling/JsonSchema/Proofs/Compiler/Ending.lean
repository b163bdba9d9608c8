import JsonSchema.Compiler.Keywords
import JsonSchema.Proofs.Lowering.Resolution
import JsonSchema.Proofs.Lowering.Watched

/-!
# Compilation ends

Where no keyword of the registry expands to a schema, compiling does the same under watch as without
(`lowerWatched`): however references and `$id`s lead around, it comes to its end by itself and lowers one
procedure for a key at most.  **Then that a schema is too deep is only said if a function that a keyword brings
along does not end** (`compilation_ends`).

Such functions there are: the check of a keyword's values is a compiled program, and that of a meta-schema like
`lateUse` has no end (`endless_check_registered`).
-/

set_option autoImplicit false

namespace JsonSchema

/-- Does what `compileSchema` does, with an alarm where the budget is used up or two procedures have one key. -/
def compileWatched (s : Surroundings) (alarm : SchemaError) (extra : Nat) (schema : Json) :
    Except SchemaError Validator := do
  let base ← schemaBase schema defaultBase
  let documents ← Documents.visibleFrom schema base s.cache
  let lowered ← lowerWatched (s.among documents) alarm (loweringBudget schema documents + extra) schema
    ⟨"#", "", 0, base, 0⟩ []
  return ⟨.ofLowered lowered, s.options.allErrors⟩

section

variable {s : Surroundings}

theorem compileWatched_eq (hmacros : s.registry.WithoutMacros) (alarm : SchemaError) (extra : Nat)
    (schema : Json) : compileWatched s alarm extra schema = compileSchema s schema := by
  rw [compileSchema_eq]
  unfold compileWatched lowerProgram
  cases schemaBase schema defaultBase with
  | error e => rfl
  | ok base =>
    dsimp only [bind, Except.bind]
    cases Documents.visibleFrom schema base s.cache with
    | error e => rfl
    | ok documents =>
      have hwatched : lowerWatched (s.among documents) alarm (loweringBudget schema documents + extra) schema
          ⟨"#", "", 0, base, 0⟩ [] = lowerSchema (s.among documents) (loweringBudget schema documents) schema
            ⟨"#", "", 0, base, 0⟩ [] := @lowerWatched_eq (s.among documents) schema hmacros alarm extra _
      dsimp only
      rw [hwatched]
      unfold Surroundings.among
      cases lowerSchema _ (loweringBudget schema documents) schema _ [] <;> rfl

theorem lowerProgram_tooDeep (hmacros : s.registry.WithoutMacros) {schema : Json}
    (h : lowerProgram s schema = .error .tooDeep) : s.registry.HasEndlessCheck := by
  unfold lowerProgram at h
  cases hbase : schemaBase schema defaultBase with
  | error e =>
    rw [hbase] at h
    exact absurd (Except.error.inj h) (schemaBase_saysOwn _ _ e hbase).ne_tooDeep
  | ok base =>
    rw [hbase] at h
    dsimp only [bind, Except.bind] at h
    cases hdocuments : Documents.visibleFrom schema base s.cache with
    | error e =>
      rw [hdocuments] at h
      exact absurd (Except.error.inj h) (Documents.visibleFrom_saysOwn _ _ _ e hdocuments).ne_tooDeep
    | ok documents =>
      rw [hdocuments] at h
      exact @lowerSchema_tooDeep (s.among documents) schema hmacros _ h

/-- **Compilation ends, if the functions do that the keywords bring along.**  Under watch it does the same,
    whatever the alarm and the budget: it succeeds or fails before the budget is used up, and never has two
    procedures for one key.  That a schema is too deep is said only where the check of a keyword's values does
    not end, or where the code of a custom keyword says so. -/
theorem compilation_ends (hmacros : s.registry.WithoutMacros) (schema : Json) :
    (∀ alarm extra, compileWatched s alarm extra schema = compileSchema s schema) ∧
      (∀ root procedures, lowerProgram s schema = .ok (root, procedures) → (procedureKeys procedures).Nodup) ∧
      (compileSchema s schema = .error .tooDeep → s.registry.HasEndlessCheck) := by
  refine ⟨fun alarm extra => compileWatched_eq hmacros alarm extra schema, fun root procedures h => ?_, fun h => ?_⟩
  · obtain ⟨base, documents, hbase, -, hlower⟩ := lowerProgram_eq_ok.mp h
    exact (lowerProgram_settled (s := s) hbase hlower).1.1
  · rw [compileSchema_eq] at h
    refine lowerProgram_tooDeep hmacros (?_ : lowerProgram s schema = .error .tooDeep)
    cases hlowered : lowerProgram s schema with
    | error e =>
      rw [hlowered] at h
      exact congrArg _ (Except.error.inj h)
    | ok lowered =>
      rw [hlowered] at h
      cases h

end

/-! ## Checks that end and checks that do not -/

/-- A keyword whose values are checked against a schema, and which passes all data. -/
def checkedBy (metaSchema : Json) : KeywordDefinition where
  keywords := ["k"]
  metaSchema := some metaSchema
  validate := some fun _ _ => true

/-- A linked list whose entries carry the keyword, with a base of their own. -/
def checkedList : Json := .obj [
  ("$id", "http://lists/all"), ("k", .obj [("next", .obj [])]),
  ("properties", .obj [("next", .obj [("$id", "sub/"), ("allOf", .arr [.obj [("$ref", "../all")]])])])]

/-- Values of the keyword are checked to be linked lists themselves, and compilation ends. -/
theorem checkedList_compiles : ∃ c validator,
    (Compiler.new {}).addKeyword "k" (checkedBy linkedList) true = .ok c ∧ c.registry.WithoutMacros ∧
      compileSchema c.surroundings checkedList = .ok validator ∧
      ∀ alarm extra, compileWatched c.surroundings alarm extra checkedList = .ok validator := by
  have hmade : ((Compiler.new {}).addKeyword "k" (checkedBy linkedList) true).toOption.any (fun c =>
      decide c.registry.WithoutMacros && (compileSchema c.surroundings checkedList).isOk) = true := by
    decide +kernel
  obtain ⟨c, hadd, hmade⟩ := exists_ok_of_any hmade
  obtain ⟨hmacros, hok⟩ := Bool.and_eq_true_iff.mp hmade
  have hends := compilation_ends (s := c.surroundings) (of_decide_eq_true hmacros) checkedList
  cases hcompiled : compileSchema c.surroundings checkedList with
  | error e =>
    rw [hcompiled] at hok
    cases hok
  | ok validator =>
    exact ⟨c, validator, hadd, of_decide_eq_true hmacros, hcompiled,
      fun alarm extra => (hends.1 alarm extra).trans hcompiled⟩

/-- Whether something fails since it is too deep. -/
def failsTooDeep {α : Type} : Except SchemaError α → Bool
  | .error .tooDeep => true
  | _ => false

theorem eq_error_of_failsTooDeep {α : Type} {x : Except SchemaError α} (h : failsTooDeep x = true) :
    x = .error .tooDeep := by
  unfold failsTooDeep at h
  split at h
  · rfl
  · cases h

/-- **A keyword without macros can be registered whose check does not end**, and then a schema with the keyword
    does not compile: the check of `1` ends under no budget. -/
theorem endless_check_registered : ∃ c rule v,
    (Compiler.new {}).addKeyword "k" (checkedBy lateUse) true = .ok c ∧ c.registry.WithoutMacros ∧
      c.registry.custom.get? "k" = some rule ∧ rule.metaValidator = some v ∧
      (∀ failFast budget, v.program.root.run (v.program.call failFast budget) failFast
        (.root (1 : Nat)) [] = none) ∧
      c.compile (.obj [("k", (1 : Nat))]) = .error .tooDeep := by
  have hmade : ((Compiler.new {}).addKeyword "k" (checkedBy lateUse) true).toOption.any (fun c =>
      (c.registry.custom.get? "k").any fun rule => rule.metaValidator.any fun v =>
        decide c.registry.WithoutMacros && v.program.isMutualCalls &&
          failsTooDeep (c.compile (.obj [("k", (1 : Nat))]))) = true := by
    decide +kernel
  obtain ⟨c, hadd, hmade⟩ := exists_ok_of_any hmade
  obtain ⟨rule, hrule, hmade⟩ := (Option.any_eq_true _ _).mp hmade
  obtain ⟨v, hv, hmade⟩ := (Option.any_eq_true _ _).mp hmade
  obtain ⟨hmade, hdeep⟩ := Bool.and_eq_true_iff.mp hmade
  obtain ⟨hmacros, hshape⟩ := Bool.and_eq_true_iff.mp hmade
  obtain ⟨inner, site, hprogram⟩ := Program.eq_mutualCalls hshape
  refine ⟨c, rule, v, hadd, of_decide_eq_true hmacros, hrule, hv, fun failFast budget => ?_,
    eq_error_of_failsTooDeep hdeep⟩
  rw [hprogram]
  exact (mutualCalls_never_end inner site failFast budget []).1

end JsonSchema
