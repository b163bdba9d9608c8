import JsonSchema.Proofs.Reference.RootId
import JsonSchema.Proofs.Registry.Runs

/-!
# Documents that a schema does not refer to

A schema that refers to nothing is lowered in the same way whatever documents there are
(`lowerSchema_refFree`).  But before anything is lowered all documents are indexed, and a document with
an `$id` that is no URI reference makes that fail, wherever in it the `$id` stands.  So **documents that
nothing refers to are harmless exactly if each `$id` that the index comes to can be joined**
(`documents_harmless_iff`).
-/

set_option autoImplicit false

namespace JsonSchema

/-! ## Lowering without references -/

section

variable {env : Environment} (hbuiltin : env.registry.BuiltinOnly)
  {members : List (String × Json)} {position : Position}

include hbuiltin

/-- An object without `$ref` is read by no rule for references. -/
theorem Environment.Reads.ne_ref {rule : Rule} (href : members.lookup "$ref" = none)
    (h : env.Reads members rule) : ∃ k, k ≠ .ref ∧ rule = .ofBuiltin k := by
  obtain ⟨group, hgroup, hrule⟩ := h
  obtain ⟨hmem, hread⟩ := List.mem_filter.mp hrule
  obtain ⟨hpresent, -⟩ := Bool.and_eq_true_iff.mp hread
  obtain ⟨k, rfl⟩ := hbuiltin group hgroup rule hmem
  refine ⟨k, ?_, rfl⟩
  rintro rfl
  simp [Rule.isPresent, Rule.ofBuiltin, BuiltinKeyword.name, BuiltinKeyword.implements, href] at hpresent

/-- **Without references, the documents do not matter to lowering**, nor does the budget if it is larger
    than the schema. -/
theorem lowerSchema_refFree {documents : Documents} : ∀ (budget budget' : Nat) (s : Json)
    (position : Position), s.size < budget → s.size < budget' → RefFree s →
    lowerSchema (env.among documents) budget' s position = lowerSchema env budget s position := by
  intro budget
  induction budget with
  | zero => exact fun budget' s position hlt => absurd hlt (Nat.not_lt_zero _)
  | succ budget ih =>
    intro budget' s position hlt hlt' hfree
    obtain ⟨budget', rfl⟩ : ∃ b, budget' = b + 1 := Nat.exists_eq_succ_of_ne_zero (by omega)
    cases s with
    | obj members =>
      cases hbase : schemaBase (.obj members) position.base with
      | error e =>
        have hfails : ∀ f : Uri → LowerM Node, liftExcept (.error e) >>= f = fun _ => .error e :=
          fun _ => rfl
        rw [lowerSchema, lowerSchema, hbase, hfails, hfails]
      | ok base =>
        obtain ⟨href, hinside⟩ : members.lookup "$ref" = none ∧
            ∀ s, Json.HasSubschema members s → RefFree s := by
          cases hfree with
          | obj href hinside => exact ⟨href, hinside⟩
          | other hnot => cases hnot
        -- only schemas inside the object are lowered next, and they are smaller than the object
        have hnext : ∀ s at', s = .null ∨ Json.HasSubschema members s →
            lowerSchema (env.among documents) budget' s at' = lowerSchema env budget s at' := by
          rintro s at' (rfl | hs)
          · rw [Json.size] at hlt hlt'
            obtain ⟨b, rfl⟩ : ∃ b, budget = b + 1 := Nat.exists_eq_succ_of_ne_zero (by omega)
            obtain ⟨b', rfl⟩ : ∃ b, budget' = b + 1 := Nat.exists_eq_succ_of_ne_zero (by omega)
            rfl
          · have hsize := hs.size_lt
            exact ih budget' s at' (by omega) (by omega) (hinside s hs)
        rw [lowerSchema_obj hbase, lowerSchema_obj hbase]
        refine (LowerM.mirrors_plain Node.renumber_id).mp (lowerObject_mirrors fun rule hreads => ?_)
        obtain ⟨k, hk, rfl⟩ := hreads.ne_ref hbuiltin href
        refine ⟨fun k' data s hrule hs => ?_, fun _ hrule => ?_, fun _ _ hrule _ => ?_⟩
        · obtain rfl : k = k' := Implementation.builtin.inj hrule
          exact KeywordPlace.mirrorOn_plain fun at' _ => hnext s at' (hs.hasSubschema rfl)
        · exact absurd (Implementation.builtin.inj hrule) hk
        · cases hrule
    | bool allowed => cases allowed <;> rw [lowerSchema, lowerSchema]
    | _ => rw [lowerSchema, lowerSchema] <;> simp

end

/-! ## When the index fails -/

namespace Documents

/-- On its way down from a value, whose place has a base, the index comes to `w`, whose place has the
    base `b'`. -/
inductive ComesTo (w : Json) (b' : Uri) : Uri → Json → Prop where
  | here : ComesTo w b' b' w
  | inside {b b₁ : Uri} {v : Json} {part : Option String × Json} : innerBase b v = .ok b₁ →
      part ∈ v.parts → Searched part.1 → ComesTo w b' b₁ part.2 → ComesTo w b' b v

/-- Each `$id` that the index comes to can be joined to the base of its place. -/
def IdsJoin (b : Uri) (v : Json) : Prop :=
  ∀ w b' id, ComesTo w b' b v → idOf? w = some id → ∃ uri, resolveUri b' id = .ok uri

theorem idsJoin_iff {b : Uri} {v : Json} :
    IdsJoin b v ↔ ∃ b₁, innerBase b v = .ok b₁ ∧
      ∀ part ∈ v.parts, Searched part.1 → IdsJoin b₁ part.2 := by
  constructor
  · intro h
    have hinner : ∃ b₁, innerBase b v = .ok b₁ := by
      unfold innerBase
      cases hid : idOf? v with
      | none => exact ⟨b, rfl⟩
      | some id =>
        obtain ⟨uri, huri⟩ := h v b id .here hid
        dsimp only
        rw [huri]
        exact ⟨_, rfl⟩
    obtain ⟨b₁, hb₁⟩ := hinner
    exact ⟨b₁, hb₁, fun part hpart hname w b' id hw => h w b' id (.inside hb₁ hpart hname hw)⟩
  · rintro ⟨b₁, hb₁, hparts⟩ w b' id hw hid
    cases hw with
    | here =>
      unfold innerBase at hb₁
      rw [hid] at hb₁
      dsimp only at hb₁
      cases huri : resolveUri b id with
      | error e =>
        rw [huri] at hb₁
        cases hb₁
      | ok uri => exact ⟨uri, rfl⟩
    | inside hinner hpart hname hw =>
      rw [hb₁] at hinner
      obtain rfl := Except.ok.inj hinner
      exact hparts _ hpart hname w b' id hw hid

/-- Identifying a value gives the base inside it. -/
theorem identify_base (docs : Documents) (b : Uri) (v : Json) :
    (docs.identify b v).map Prod.snd = innerBase b v := by
  unfold identify innerBase
  cases idOf? v with
  | none => rfl
  | some id =>
    dsimp only
    cases resolveUri b id with
    | error e => rfl
    | ok uri =>
      show Except.map _ (if uri.isAnchored then _ else _) = .ok (if uri.isAnchored then b else _)
      split <;> rfl

mutual

/-- **The index succeeds if each `$id` that it comes to can be joined, and only then.** -/
theorem index_isOk_iff : ∀ (v : Json) (b : Uri) (docs : Documents),
    (docs.index b v).isOk = true ↔ IdsJoin b v
  | .obj members, b, docs => by
    rw [idsJoin_iff, ← identify_base docs, index]
    cases docs.identify b (.obj members) with
    | error e => exact ⟨nofun, fun ⟨_, h, _⟩ => nomatch h⟩
    | ok r =>
      refine (indexMembers_isOk_iff members r.2 r.1).trans ⟨fun h => ?_, ?_⟩
      · exact ⟨r.2, rfl, List.forall_mem_map.mpr h⟩
      · rintro ⟨_, ⟨⟩, h⟩
        exact List.forall_mem_map.mp h
  | .arr items, b, docs => by
    rw [idsJoin_iff, index]
    refine (indexItems_isOk_iff items b docs).trans ?_
    simp [innerBase, idOf?, Json.get?, Json.parts, Searched]
  | .null, b, docs | .bool _, b, docs | .num _, b, docs | .str _, b, docs => by
    rw [idsJoin_iff]
    exact ⟨fun _ => ⟨b, rfl, nofun⟩, fun _ => rfl⟩

theorem indexItems_isOk_iff : ∀ (items : List Json) (b : Uri) (docs : Documents),
    (docs.indexItems b items).isOk = true ↔ ∀ v ∈ items, IdsJoin b v
  | [], b, docs => ⟨nofun, fun _ => by rw [indexItems]; rfl⟩
  | v :: rest, b, docs => by
    rw [indexItems, List.forall_mem_cons, ← index_isOk_iff v b docs]
    cases docs.index b v with
    | error e => exact ⟨nofun, fun ⟨h, _⟩ => nomatch h⟩
    | ok docs₁ => exact (indexItems_isOk_iff rest b docs₁).trans ⟨fun h => ⟨rfl, h⟩, And.right⟩

theorem indexMembers_isOk_iff : ∀ (members : List (String × Json)) (b : Uri) (docs : Documents),
    (docs.indexMembers b members).isOk = true ↔
      ∀ m ∈ members, Searched (some m.1) → IdsJoin b m.2
  | [], b, docs => ⟨nofun, fun _ => by rw [indexMembers]; rfl⟩
  | (name, v) :: rest, b, docs => by
    have hsearched : Searched (some name) ↔ dataKeywords.contains name = false := by simp [Searched]
    rw [indexMembers, List.forall_mem_cons, hsearched]
    split
    · next hdata =>
      rw [hdata]
      exact (indexMembers_isOk_iff rest b docs).trans ⟨fun h => ⟨nofun, h⟩, And.right⟩
    · next hdata =>
      rw [forall_prop_of_true (Bool.eq_false_iff.mpr hdata), ← index_isOk_iff v b docs]
      cases docs.index b v with
      | error e => exact ⟨nofun, fun ⟨h, _⟩ => nomatch h⟩
      | ok docs₁ => exact (indexMembers_isOk_iff rest b docs₁).trans ⟨fun h => ⟨rfl, h⟩, And.right⟩

end

/-- The document can be filed under the key. -/
def Fileable (key : String) (document : Json) : Prop :=
  ∃ base, Uri.parse key = .ok base ∧ IdsJoin base document

theorem failure?_eq_none_iff {key : String} {document : Json} :
    failure? (key, document) = none ↔ Fileable key document := by
  unfold failure? file Fileable
  cases Uri.parse key with
  | error e =>
    constructor
    · intro h
      cases h
    · rintro ⟨_, h, -⟩
      cases h
  | ok base =>
    have hindex := index_isOk_iff document base (Table.empty.set key document)
    simp only [Except.mapError, bind, Except.bind, add, Except.ok.injEq, exists_eq_left']
    rw [← hindex]
    cases index (Table.empty.set key document) base document with
    | error e =>
      constructor <;> intro h <;> cases h
    | ok docs => exact ⟨fun _ => rfl, fun _ => rfl⟩

end Documents

/-! ## Compiling without references -/

/-- A schema that refers to nothing compiles as if there were no documents, if all there are can be
    filed. -/
theorem compileSchema_refFree {s : Surroundings} {schema : Json} (hbuiltin : s.registry.BuiltinOnly)
    (hfree : RefFree schema) (hfiled : ∀ e ∈ s.cache.entries, Documents.failure? e = none) :
    compileSchema s schema = compileSchema { s with cache := .empty } schema := by
  unfold compileSchema
  rw [compileProgram_eq, compileProgram_eq]
  unfold lowerProgram
  cases schemaBase schema defaultBase with
  | error e => rfl
  | ok base =>
    have hcases := Documents.visibleFrom_cases schema base s.cache
    have hcases' := Documents.visibleFrom_cases schema base .empty
    rw [List.findSome?_eq_none_iff.mpr hfiled] at hcases
    rw [show (Table.empty : Table String Json).entries.findSome? Documents.failure? = none from rfl]
      at hcases'
    dsimp only [bind, Except.bind] at hcases hcases' ⊢
    cases hown : Documents.add .empty base.text base schema with
    | error e =>
      rw [hown] at hcases hcases'
      rw [hcases, hcases']
    | ok own =>
      rw [hown] at hcases hcases'
      obtain ⟨docs, hdocs, -⟩ := hcases
      obtain ⟨docs', hdocs', -⟩ := hcases'
      rw [hdocs, hdocs']
      dsimp only
      have hlower := @lowerSchema_refFree ⟨s.registry, s.options, s.formats, docs'⟩ hbuiltin docs
        (loweringBudget schema docs') (loweringBudget schema docs) schema ⟨"#", "", 0, base, 0⟩
        (size_lt_loweringBudget ..) (size_lt_loweringBudget ..) hfree
      dsimp only [Environment.among] at hlower
      rw [hlower]

namespace Compiler

/-- What adding documents can make of a new compiler. -/
inductive Stocked (options : Options) : Compiler → Prop where
  | new : Stocked options (.new options)
  | addSchema {c c' : Compiler} {schema : Json} {key : Option String} {normalized : String} :
      Stocked options c → c.addSchema schema key = .ok (c', normalized) → Stocked options c'

/-- Documents are all that is added. -/
theorem Stocked.eq_new {options : Options} {c : Compiler} (h : Stocked options c) :
    c = { Compiler.new options with documents := c.documents } := by
  induction h with
  | new => rfl
  | addSchema _ hadd ih => rw [addSchema_eq_ok hadd, ih]; rfl

end Compiler

open Compiler Documents in
/-- **Documents that nothing refers to are harmless exactly if they can be filed**: then, and only then,
    each schema without references compiles to what it compiles to without documents. -/
theorem documents_harmless_iff {options : Options} {c : Compiler} (h : Stocked options c) :
    (∀ schema, RefFree schema → c.compile schema = (Compiler.new options).compile schema) ↔
      ∀ key document, c.documents.get? key = some document → Fileable key document := by
  have hcompile : ∀ schema, c.compile schema =
      compileSchema ⟨.withBuiltins, options, .builtin, c.documents⟩ schema := by
    intro schema
    rw [h.eq_new]
    rfl
  constructor
  · intro hsame key document hdocument
    -- the schema that allows everything compiles without documents, so filing them cannot fail
    have hanything := hsame (.bool true) (.other rfl)
    rw [hcompile] at hanything
    rw [← failure?_eq_none_iff]
    by_contra hfails
    have hmem := (Table.mem_entries_iff _ _ _).mpr hdocument
    have hfound : c.documents.entries.findSome? failure? ≠ none := fun hnone =>
      hfails (List.findSome?_eq_none_iff.mp hnone _ hmem)
    obtain ⟨e, he⟩ := Option.ne_none_iff_exists'.mp hfound
    have hcases := visibleFrom_cases (.bool true) defaultBase c.documents
    rw [he] at hcases
    have herror : compileSchema ⟨.withBuiltins, options, .builtin, c.documents⟩ (.bool true) = .error e := by
      unfold compileSchema
      rw [compileProgram_eq, lowerProgram]
      show ((visibleFrom (.bool true) defaultBase c.documents >>= _).map _ >>= _) = _
      rw [show visibleFrom (.bool true) defaultBase c.documents = .error e from hcases]
      rfl
    rw [herror] at hanything
    cases hanything
  · intro hfileable schema hfree
    rw [hcompile]
    refine compileSchema_refFree Registry.withBuiltins_builtinOnly hfree fun e he => ?_
    exact failure?_eq_none_iff.mpr (hfileable _ _ ((Table.mem_entries_iff _ _ _).mp he))

/-- A document with a good `$id` inside is harmless. -/
theorem defined_harmless : ∃ c key,
    (Compiler.new {}).addSchema (defining "http://x/t" "string") (some "d") = .ok (c, key) ∧
      ∀ schema, RefFree schema → c.compile schema = (Compiler.new {}).compile schema := by
  have hfiled : ((Compiler.new {}).addSchema (defining "http://x/t" "string") (some "d")).toOption.any
      (fun r => r.1.documents.entries.all fun e => (Documents.failure? e).isNone) = true := by
    decide +kernel
  cases hadd : (Compiler.new {}).addSchema (defining "http://x/t" "string") (some "d") with
  | error e =>
    rw [hadd] at hfiled
    cases hfiled
  | ok r =>
    obtain ⟨c, key⟩ := r
    rw [hadd] at hfiled
    refine ⟨c, key, rfl, (documents_harmless_iff (.addSchema .new hadd)).mpr fun key document hget => ?_⟩
    have hnone := List.all_eq_true.mp hfiled _ ((Table.mem_entries_iff _ _ _).mpr hget)
    exact Documents.failure?_eq_none_iff.mp (Option.isNone_iff_eq_none.mp hnone)

/-- The text that a refusal says is no URI reference, if it says that. -/
def invalidUri? {α : Type} : Except SchemaError α → Option String
  | .error (.invalidUri reference _) => some reference
  | _ => none

theorem exists_of_invalidUri? {α : Type} {x : Except SchemaError α} {reference : String}
    (h : invalidUri? x = some reference) : ∃ e, x = .error (.invalidUri reference e) := by
  cases x with
  | ok a => cases h
  | error e =>
    cases e with
    | invalidUri text e => exact ⟨e, by rw [Option.some.inj h]⟩
    | _ => cases h

/-- **An `$id` inside a document that is no URI reference makes every compilation fail**, also that of a
    schema that refers to nothing. -/
theorem malformed_id_interferes : ∃ c key e,
    (Compiler.new {}).addSchema (defining "http://[bad" "string") (some "d") = .ok (c, key) ∧
      RefFree (.obj [("type", "string")]) ∧
      c.compile (.obj [("type", "string")]) = .error (.invalidUri "http://[bad" e) ∧
      ((Compiler.new {}).compile (.obj [("type", "string")])).isOk = true := by
  have hfails : ((Compiler.new {}).addSchema (defining "http://[bad" "string") (some "d")).toOption.any
      (fun r => decide (invalidUri? (r.1.compile (.obj [("type", "string")])) = some "http://[bad")) = true := by
    decide +kernel
  cases hadd : (Compiler.new {}).addSchema (defining "http://[bad" "string") (some "d") with
  | error e =>
    rw [hadd] at hfails
    cases hfails
  | ok r =>
    obtain ⟨c, key⟩ := r
    rw [hadd] at hfails
    obtain ⟨e, hcompile⟩ := exists_of_invalidUri? (of_decide_eq_true hfails)
    refine ⟨c, key, e, rfl, ?_, hcompile, by decide +kernel⟩
    exact .of_members rfl (by simp [schemaKeywords]) (by simp [schemaMapKeywords])

end JsonSchema
