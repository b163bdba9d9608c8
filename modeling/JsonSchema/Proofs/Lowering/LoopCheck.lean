import JsonSchema.Proofs.Lowering.Again
import JsonSchema.Proofs.Lowering.Refusals
import JsonSchema.Proofs.Reference.Keys
import JsonSchema.Proofs.Reference.RootId
import Mathlib.Logic.Relation

/-!
# The loop check refuses loops only

`KeywordPlace.procedureOf` refuses a reference to a target that is still being lowered, if the data has been
entered as often as when that began.  **Then the target leads back to the reference without entering the
data**: through references, combinations of schemas, schema dependencies and expansions of custom keywords
alone (`loop_check_refuses_loops_only`).

The count of descents says so because of what holds of every open procedure (`Procedure.OpenAbove`): it was
opened no deeper than where lowering is, and if no less deep, then a chain of such steps leads from its target
to here.  A step at the same data makes the chain longer, and one into the data leaves all open procedures
less deep.  That the target is the one of the open procedure, and not another under its key, is what the
normal form of bases is for.
-/

set_option autoImplicit false

namespace JsonSchema

open LowerM

/-! ## Steps that do not enter the data -/

/-- A schema where lowering comes to it: with the base that it is handed, under the path in reports. -/
structure SchemaNode where
  schema : Json
  base : Uri
  path : String

def Target.node (target : Target) : SchemaNode := ⟨target.schema, target.base, "#" ++ target.fragment⟩

namespace Environment

variable (env : Environment)

/-- The object has a reference under the path that leads to the target. -/
inductive RefersFrom : SchemaNode → (path reference : String) → Target → Prop where
  | mk {members : List (String × Json)} {outer base : Uri} {path : String} {rule : Rule} {target : Target} :
      schemaBase (.obj members) outer = .ok base → env.Reads members rule → rule.implementation = .builtin .ref →
      env.documents.resolve base (rule.reference members) = .ok target →
      RefersFrom ⟨.obj members, outer, path⟩ s!"{path}/{rule.keyword}" (rule.reference members) target

/-- The object applies the schema to the data that it is applied to itself. -/
inductive StaysAt : SchemaNode → SchemaNode → Prop where
  /-- A combination of schemas or a schema dependency. -/
  | combined {members : List (String × Json)} {outer : Uri} {position : Position} {rule : Rule}
      {k : BuiltinKeyword} {data : Option DataRef} {s : Json} {relative : String} :
      schemaBase (.obj members) outer = .ok position.base → env.Reads members rule →
      rule.implementation = .builtin k → (rule.place env members position data).Combines k s relative →
      StaysAt ⟨.obj members, outer, position.schemaPath⟩ ⟨s, position.base, s!"{position.schemaPath}/{relative}"⟩
  /-- A `$ref`. -/
  | referred {node : SchemaNode} {path reference : String} {target : Target} :
      env.RefersFrom node path reference target → StaysAt node target.node
  /-- The expansion of a custom keyword. -/
  | expanded {members : List (String × Json)} {outer base : Uri} {path : String} {rule : Rule}
      {d : KeywordDefinition} {expand : Json → List (String × Json) → Json} :
      schemaBase (.obj members) outer = .ok base → env.Reads members rule → rule.implementation = .custom d →
      d.expand = some expand →
      StaysAt ⟨.obj members, outer, path⟩
        ⟨expand ((members.lookup rule.keyword).getD .null) members, base, s!"{path}/{rule.keyword}"⟩

/-- The reference under the path leads to a target that leads back to the reference at the same data. -/
def LoopsBack (path reference : String) : Prop :=
  ∃ node target, env.RefersFrom node path reference target ∧
    Relation.ReflTransGen env.StaysAt target.node node

end Environment

/-! ## Open procedures -/

section

variable {env : Environment} {node : SchemaNode} {descents : Nat} {q : Procedure}
  {procedures after : List Procedure}

/-- The procedure was opened above a schema: from its target, if the data was not entered since, steps that do
    not enter the data lead to the schema. -/
structure Procedure.OpenAbove (env : Environment) (node : SchemaNode) (descents : Nat) (q : Procedure) : Prop where
  reached : env.documents.Reached q.target
  descents_le : q.descents ≤ descents
  chain : q.descents = descents → Relation.ReflTransGen env.StaysAt q.target.node node

/-- All procedures that are open were opened above a schema. -/
def AllAbove (env : Environment) (node : SchemaNode) (descents : Nat) (procedures : List Procedure) : Prop :=
  ∀ q ∈ procedures, q.body = none → q.OpenAbove env node descents

namespace AllAbove

variable {next : SchemaNode}

/-- A step at the same data makes the chains longer. -/
theorem stay (h : AllAbove env node descents procedures) (hstep : env.StaysAt node next) :
    AllAbove env next descents procedures := by
  intro q hq hopen
  obtain ⟨hreached, hle, hchain⟩ := h q hq hopen
  exact ⟨hreached, hle, fun hsame => (hchain hsame).tail hstep⟩

/-- Where the data has been entered, no procedure is open that was opened as deep. -/
theorem enter (h : AllAbove env node descents procedures) : AllAbove env next (descents + 1) procedures := by
  intro q hq hopen
  obtain ⟨hreached, hle, -⟩ := h q hq hopen
  exact ⟨hreached, Nat.le_succ_of_le hle, fun hsame => absurd hle (by omega)⟩

/-- What lowering leaves open was open before. -/
theorem keep (h : AllAbove env node descents procedures) (hle : procedures <+: after)
    (hfilled : FilledFrom procedures.length after) : AllAbove env node descents after := by
  intro q hq hopen
  obtain ⟨i, hi⟩ := List.mem_iff_getElem?.mp hq
  by_cases hlt : i < procedures.length
  · obtain ⟨rest, rfl⟩ := hle
    rw [List.getElem?_append_left hlt] at hi
    exact h q (List.mem_of_getElem? hi) hopen
  · have hsome := hfilled i q (Nat.le_of_not_lt hlt) hi
    rw [hopen] at hsome
    cases hsome

end AllAbove

end

/-! ## Refusals of the loop check -/

/-- If the error says that a reference loops, then it does. -/
def Environment.Justifies (env : Environment) (e : SchemaError) : Prop :=
  ∀ path reference, e = loopError path reference → env.LoopsBack path reference

theorem Environment.justifies_of_not_isLoop {env : Environment} (e : SchemaError) (h : ¬ e.IsLoop) :
    env.Justifies e := fun path reference heq => absurd ⟨path, reference, heq⟩ h

theorem Environment.justifies_of_isOwn {env : Environment} (e : SchemaError) (h : e.IsOwn) : env.Justifies e :=
  env.justifies_of_not_isLoop e h.not_isLoop

/-- That a schema is too deep says nothing of references. -/
theorem SchemaError.tooDeep_not_isLoop : ¬ SchemaError.tooDeep.IsLoop := by
  rintro ⟨_, _, heq⟩
  cases heq

section

variable {env : Environment}

/-- What is known of the refusals with one budget less. -/
def RefusesLoops (env : Environment) (budget : Nat) : Prop :=
  ∀ s (position : Position), position.base.Normal → ∀ procedures,
    AllAbove env ⟨s, position.base, position.schemaPath⟩ position.descents procedures →
    ∀ e, lowerSchema env budget s position procedures = .error e → env.Justifies e

variable {budget : Nat} {members : List (String × Json)} {outer : Uri} {position : Position}

/-- Lowering a schema at the same data. -/
theorem RefusesLoops.stay {node : SchemaNode} (ih : RefusesLoops env budget) {s : Json} {at' : Position}
    (hbase : at'.base.Normal) {descents : Nat} (hdescents : at'.descents = descents)
    (hstep : env.StaysAt node ⟨s, at'.base, at'.schemaPath⟩) :
    Refuses (AllAbove env node descents) env.Justifies (lowerSchema env budget s at') := by
  subst hdescents
  refine fun procedures h => ⟨fun n after hm => ?_, fun e he => ih s at' hbase _ (h.stay hstep) e he⟩
  obtain ⟨hle, hfilled⟩ := lowerSchema_keeps hm
  exact h.keep hle hfilled

/-- Lowering a schema at data that has been entered. -/
theorem RefusesLoops.enter {node : SchemaNode} (ih : RefusesLoops env budget) {s : Json} {at' : Position}
    (hbase : at'.base.Normal) {descents : Nat} (hdescents : at'.descents = descents + 1) :
    Refuses (AllAbove env node descents) env.Justifies (lowerSchema env budget s at') := by
  refine fun procedures h => ⟨fun n after hm => ?_, fun e he => ih s at' hbase _ ?_ e he⟩
  · obtain ⟨hle, hfilled⟩ := lowerSchema_keeps hm
    exact h.keep hle hfilled
  · rw [hdescents]
    exact h.enter

/-- An entry that is opened is filled in the end, and so are those that are opened meanwhile. -/
theorem filledFrom_fill {procedures mid : List Procedure} {q : Procedure} (body : Node)
    (h : FilledFrom (procedures ++ [q]).length mid) :
    FilledFrom procedures.length (mid.modify procedures.length (·.fill body)) := by
  intro j q' hj hq'
  rw [getElem?_fill] at hq'
  obtain ⟨r, hr, rfl⟩ := Option.map_eq_some_iff.mp hq'
  split
  · rfl
  · next hne =>
    rw [List.length_append, List.length_singleton] at h
    exact h j r (by omega) hr

/-- **A reference that is refused leads back to itself at the same data.** -/
theorem KeywordPlace.procedureOf_refusesLoops (ih : RefusesLoops env budget) (hnormal : position.base.Normal)
    (hbase : schemaBase (.obj members) outer = .ok position.base) {rule : Rule} (hreads : env.Reads members rule)
    (hrule : rule.implementation = .builtin .ref) (data : Option DataRef) :
    Refuses (AllAbove env ⟨.obj members, outer, position.schemaPath⟩ position.descents) env.Justifies
      ((rule.place env members position data).procedureOf (lowerSchema env budget) (rule.reference members)) := by
  have hrefers : ∀ {target}, env.documents.resolve position.base (rule.reference members) = .ok target →
      env.RefersFrom ⟨.obj members, outer, position.schemaPath⟩ s!"{position.schemaPath}/{rule.keyword}"
        (rule.reference members) target := .mk hbase hreads hrule
  refine procedureOf_refuses env.justifies_of_isOwn ?_ ?_
  · intro procedures target htarget h q hq hkey hopen hdescents path reference hloop
    obtain ⟨rfl, rfl⟩ := loopError_inj hloop
    have habove := h q hq hopen
    -- the procedure under the key is the one of the target
    have hsame : q.target = target :=
      habove.reached.eq_of_key_eq (Documents.reached_of_resolve hnormal htarget) hkey
    exact ⟨_, target, hrefers htarget, hsame ▸ habove.chain hdescents⟩
  · rintro procedures target htarget h _ rfl
    have hreached := Documents.reached_of_resolve hnormal htarget
    have hopened : AllAbove env target.node position.descents
        (procedures ++ [⟨target, position.descents, none⟩]) := by
      refine List.forall_mem_append.mpr ⟨h.stay (.referred (hrefers htarget)), ?_⟩
      exact List.forall_mem_singleton.mpr fun _ => ⟨hreached, Nat.le_refl _, fun _ => .refl⟩
    refine ⟨fun body mid hmade => ?_, fun e he => ih _ _ hreached.base_normal _ hopened e he⟩
    obtain ⟨hle, hfilled⟩ := lowerSchema_keeps hmade
    exact h.keep (prefix_modify hle) (filledFrom_fill body hfilled)

variable (hcustom : env.registry.LeavesLoops)

include hcustom

theorem lowerObject_refusesLoops (ih : RefusesLoops env budget) (hnormal : position.base.Normal)
    (hbase : schemaBase (.obj members) outer = .ok position.base) :
    Refuses (AllAbove env ⟨.obj members, outer, position.schemaPath⟩ position.descents) env.Justifies
      (lowerObject (lowerSchema env budget) env members position) := by
  refine lowerObject_refuses env.justifies_of_isOwn ?_ ?_ ?_
  · intro rule path value e _ he
    rcases Rule.checkValue_error he with hown | ⟨rfl, -⟩
    · exact env.justifies_of_isOwn e hown
    · exact env.justifies_of_not_isLoop _ SchemaError.tooDeep_not_isLoop
  · intro rule k data hreads hrule
    refine KeywordPlace.builtin_refuses env.justifies_of_isOwn (fun s at' hat hdescents => ?_) k
      (fun s relative hcombines => ?_) fun hk => ?_
    · exact ih.enter (hat ▸ hnormal) hdescents
    · refine ih.stay ?_ ?_ ?_
      · exact hnormal
      · rfl
      · exact .combined hbase hreads hrule hcombines
    · exact KeywordPlace.procedureOf_refusesLoops ih hnormal hbase hreads (hk ▸ hrule) data
  · rintro rule d data ⟨group, hgroup, hmem⟩ hrule
    have hd := hcustom group hgroup rule (List.mem_of_mem_filter hmem) d hrule
    refine KeywordPlace.custom_refuses (fun code e hcode he => ?_) (fun compile message hcompile he => ?_)
      fun expand hexpand => ?_
    · exact env.justifies_of_not_isLoop e (hd.code code _ hcode e he)
    · rintro path reference hloop
      obtain ⟨-, -, rfl⟩ := SchemaError.compilation.inj hloop
      exact absurd he (hd.compile compile _ _ reference hcompile)
    · refine ih.stay ?_ ?_ ?_
      · exact hnormal
      · rfl
      · exact .expanded hbase ⟨group, hgroup, hmem⟩ hrule hexpand

/-- **Every refusal of the loop check is justified**, under whatever budget. -/
theorem lowerSchema_refusesLoops : ∀ budget, RefusesLoops env budget := by
  intro budget
  induction budget with
  | zero =>
    intro s position _ procedures _ e he
    rw [lowerSchema] at he
    obtain rfl := Except.error.inj he
    exact env.justifies_of_not_isLoop _ SchemaError.tooDeep_not_isLoop
  | succ budget ih =>
    intro s position hnormal procedures h e he
    cases s with
    | bool allowed => cases allowed <;> cases he
    | obj members =>
      cases hbase : schemaBase (.obj members) position.base with
      | error e' =>
        rw [lowerSchema, hbase] at he
        obtain rfl := Except.error.inj he
        exact env.justifies_of_isOwn e' (schemaBase_saysOwn _ _ e' hbase)
      | ok base =>
        have hinner := schemaBase_normal hnormal hbase
        have hobject := @lowerObject_refusesLoops _ _ members position.base { position with base } hcustom ih hinner hbase
        rw [lowerSchema_obj hbase] at he
        exact (hobject procedures h).2 e he
    | _ =>
      obtain rfl := Except.error.inj he
      exact env.justifies_of_isOwn _ (.invalidSchemaType _)

end

/-! ## Refusals of compilation -/

/-- **If compilation fails since a reference loops, then the target of the reference leads back to it**
    without entering the data. -/
theorem loop_check_refuses_loops_only {s : Surroundings} {schema : Json} {path reference : String}
    (hcustom : s.registry.LeavesLoops)
    (h : compileSchema s schema = .error (.compilation "$ref" path
      s!"reference {reference} loops back without moving into the data")) :
    ∃ base documents, schemaBase schema defaultBase = .ok base ∧
      Documents.visibleFrom schema base s.cache = .ok documents ∧
      (s.among documents).LoopsBack path reference := by
  have hloop : (loopError path reference).IsLoop := ⟨path, reference, rfl⟩
  have hlowered : lowerProgram s schema = .error (loopError path reference) := by
    rw [compileSchema_eq] at h
    cases hmade : lowerProgram s schema with
    | ok lowered =>
      rw [hmade] at h
      cases h
    | error e =>
      rw [hmade] at h
      exact congrArg _ (Except.error.inj h)
  unfold lowerProgram at hlowered
  cases hbase : schemaBase schema defaultBase with
  | error e =>
    rw [hbase] at hlowered
    obtain rfl := Except.error.inj hlowered
    exact absurd hloop (schemaBase_saysOwn _ _ _ hbase).not_isLoop
  | ok base =>
    cases hdocuments : Documents.visibleFrom schema base s.cache with
    | error e =>
      rw [hbase] at hlowered
      dsimp only [bind, Except.bind] at hlowered
      rw [hdocuments] at hlowered
      obtain rfl := Except.error.inj hlowered
      exact absurd hloop (Documents.visibleFrom_saysOwn _ _ _ _ hdocuments).not_isLoop
    | ok documents =>
      rw [hbase] at hlowered
      dsimp only [bind, Except.bind] at hlowered
      rw [hdocuments] at hlowered
      refine ⟨base, documents, rfl, hdocuments, ?_⟩
      have hnone : AllAbove (s.among documents) ⟨schema, base, "#"⟩ 0 [] :=
        fun q hq => absurd hq List.not_mem_nil
      have hnormal : base.Normal := schemaBase_normal defaultBase_normal hbase
      exact lowerSchema_refusesLoops hcustom _ _ _ hnormal _ hnone _ hlowered path reference rfl

/-- A member whose schema leads back to itself by way of a negation and a schema dependency. -/
def looping : Json := .obj [
  ("properties", .obj [("x", .obj [("$ref", "#/definitions/a")])]),
  ("definitions", .obj [
    ("a", .obj [("not", .obj [("$ref", "#/definitions/b")])]),
    ("b", .obj [("dependencies", .obj [("k", .obj [("$ref", "#/definitions/a")])])])])]

/-- The path and the message of a refusal that a reference is to blame for. -/
def refRefusal? {α : Type} : Except SchemaError α → Option (String × String)
  | .error (.compilation "$ref" path message) => some (path, message)
  | _ => none

theorem eq_error_of_refRefusal? {α : Type} {x : Except SchemaError α} {path message : String}
    (h : refRefusal? x = some (path, message)) : x = .error (.compilation "$ref" path message) := by
  unfold refRefusal? at h
  split at h
  · obtain ⟨rfl, rfl⟩ := Prod.mk.inj (Option.some.inj h)
    rfl
  · cases h

/-- It is refused at the reference that closes the loop. -/
theorem looping_refused :
    compileSchema .plain looping = .error (.compilation "$ref" "#/definitions/b/dependencies/k/$ref"
      "reference #/definitions/a loops back without moving into the data") ∧
    ∃ base documents, schemaBase looping defaultBase = .ok base ∧
      Documents.visibleFrom looping base Surroundings.plain.cache = .ok documents ∧
      (Surroundings.plain.among documents).LoopsBack "#/definitions/b/dependencies/k/$ref" "#/definitions/a" := by
  have hrefused : compileSchema .plain looping = .error (.compilation "$ref" "#/definitions/b/dependencies/k/$ref"
      "reference #/definitions/a loops back without moving into the data") :=
    eq_error_of_refRefusal? (by decide +kernel)
  refine ⟨hrefused, loop_check_refuses_loops_only (fun group hgroup rule hrule d hd => ?_) hrefused⟩
  obtain ⟨k, rfl⟩ := Registry.withBuiltins_builtinOnly group hgroup rule hrule
  cases hd

end JsonSchema
