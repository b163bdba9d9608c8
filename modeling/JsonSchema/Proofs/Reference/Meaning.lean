import JsonSchema.Proofs.Reference.Transparency

/-!
# What a schema with references means

A schema without `$id`s whose references are local asks of a value what the schema asks with its
references replaced, and that is read off the replacement alone.  **Its program ends on every value, in
either mode, and passes exactly the values that satisfy the replacement** (`compiled_decides`).

What has to be known of the schema can be tested: all of it is about the objects that stand somewhere
inside, and these can be listed (`Json.insides`).
-/

set_option autoImplicit false

namespace JsonSchema

/-! ## The values inside a value -/

mutual

/-- The value and all that stands inside it. -/
def Json.insides : Json → List Json
  | .arr items => .arr items :: Json.insidesOfItems items
  | .obj members => .obj members :: Json.insidesOfMembers members
  | v => [v]

def Json.insidesOfItems : List Json → List Json
  | [] => []
  | v :: rest => v.insides ++ Json.insidesOfItems rest

def Json.insidesOfMembers : List (String × Json) → List Json
  | [] => []
  | (_, v) :: rest => v.insides ++ Json.insidesOfMembers rest

end

theorem Json.mem_insidesOfItems {items : List Json} {v w : Json} (hv : v ∈ items) (hw : w ∈ v.insides) :
    w ∈ Json.insidesOfItems items := by
  induction items with
  | nil => cases hv
  | cons first rest ih =>
    rw [insidesOfItems, List.mem_append]
    rcases List.mem_cons.mp hv with rfl | hv
    · exact .inl hw
    · exact .inr (ih hv)

theorem Json.mem_insidesOfMembers {members : List (String × Json)} {m : String × Json} {w : Json}
    (hm : m ∈ members) (hw : w ∈ m.2.insides) : w ∈ Json.insidesOfMembers members := by
  induction members with
  | nil => cases hm
  | cons first rest ih =>
    rw [insidesOfMembers, List.mem_append]
    rcases List.mem_cons.mp hm with rfl | hm
    · exact .inl hw
    · exact .inr (ih hm)

theorem Json.Inside.mem_insides {v w : Json} (h : w.Inside v) : w ∈ v.insides := by
  induction h with
  | here =>
    cases w <;> exact List.mem_cons_self
  | element hitem _ ih => exact List.mem_cons_of_mem _ (Json.mem_insidesOfItems hitem ih)
  | member hm _ ih => exact List.mem_cons_of_mem _ (Json.mem_insidesOfMembers hm ih)

/-! ## Tests for what is asked of a schema -/

/-- The object refers nowhere, or to a place in its own document. -/
def Json.refersLocally : Json → Bool
  | .obj members =>
    match (reference? members).map String.toList with
    | none | some ['#'] => true
    | some ('#' :: c :: _) => c == '/'
    | some _ => false
  | _ => true

theorem ReferencesLocal.of_insides {root : Json} (h : ∀ v ∈ root.insides, v.refersLocally = true) :
    ReferencesLocal root := by
  intro members reference hreached href
  have hlocal := h _ hreached.inside.mem_insides
  rw [Json.refersLocally, href, Option.map_some] at hlocal
  split at hlocal
  · contradiction
  · next htext => exact ⟨[], Option.some.inj htext, by simp⟩
  · next c rest htext =>
    refine ⟨c :: rest, Option.some.inj htext, fun c' hc' => ?_⟩
    obtain rfl := Option.some.inj hc'
    exact eq_of_beq hlocal
  · cases hlocal

theorem Json.WithoutIds.of_insides {v : Json} (h : ∀ w ∈ v.insides, (idOf? w).isNone = true) :
    v.WithoutIds :=
  fun w hw => Option.isNone_iff_eq_none.mp (h w hw.mem_insides)

/-- The value is no object with a reference. -/
def Json.refersNowhere (v : Json) : Bool :=
  match v with
  | .obj members => (members.lookup "$ref").isNone
  | _ => true

theorem Json.HasSubschema.sizeOf_lt {members : List (String × Json)} {s : Json}
    (h : Json.HasSubschema members s) : sizeOf s < sizeOf members := by
  cases h with
  | single _ hl => exact sizeOf_lt_of_lookup hl
  | listed _ hl hs => exact sizeOf_lt_of_listed hl hs
  | named _ hl hm => exact sizeOf_lt_of_named hl hm

theorem RefFree.of_insides {root : Json} (h : ∀ v ∈ root.insides, v.refersNowhere = true) :
    ∀ s : Json, s.Inside root → RefFree s
  | .obj members, hs => by
    refine .obj (Option.isNone_iff_eq_none.mp (h _ hs.mem_insides)) fun t ht => ?_
    have := ht.sizeOf_lt
    exact RefFree.of_insides h t (ht.inside.trans hs)
  | .null, _ | .bool _, _ | .num _, _ | .str _, _ | .arr _, _ => .other rfl
termination_by s => sizeOf s
decreasing_by
  rw [Json.obj.sizeOf_spec]
  omega

/-! ## What a program with references decides -/

section

variable {s : Surroundings} {schema inlined : Json}

/-- A schema without `$id`s is lowered at the default base, in documents of which it is one. -/
theorem lowerProgram_of_withoutIds {lowered : Node × List Procedure} (hids : schema.WithoutIds)
    (h : lowerProgram s schema = .ok lowered) :
    ∃ documents : Documents, documents.get? defaultBase.text = some schema ∧
      lowerSchema ⟨s.registry, s.options, s.formats, documents⟩ (loweringBudget schema documents) schema
        ⟨"#", "", 0, defaultBase, 0⟩ [] = .ok lowered := by
  obtain ⟨base, documents, hbase, hdocuments, hlower⟩ := lowerProgram_eq_ok.mp h
  rw [schemaBase_of_withoutIds hids] at hbase
  obtain rfl := Except.ok.inj hbase
  rw [Documents.visibleFrom_of_withoutIds hids] at hdocuments
  cases hcache : Documents.ofCache s.cache with
  | error e =>
    rw [hcache] at hdocuments
    cases hdocuments
  | ok cached =>
    rw [hcache] at hdocuments
    obtain rfl := Except.ok.inj hdocuments
    refine ⟨cached.set defaultBase.text schema, ?_, hlower⟩
    rw [Table.get?_set, if_pos rfl]

/-- **A program with local references decides what the schema asks with its references replaced**: in
    either mode it ends on every value, and passes those that satisfy the replacement. -/
theorem compiled_decides {validator : Validator} {n : Nat} (hregistry : s.registry = .withBuiltins)
    (hdata : s.options.data = false) (hids : schema.WithoutIds) (hlocal : ReferencesLocal schema)
    (hinlined : Json.inline? schema n schema = some inlined) (hfree : RefFree inlined)
    (h : compileSchema s schema = .ok validator) (failFast : Bool) (data : Json) :
    ∃ valid errors, validator.program.run failFast data = some (valid, errors) ∧
      (valid = true ↔ Satisfies s.formats inlined data) := by
  obtain ⟨⟨root, procedures⟩, hlowered, rfl⟩ := compileSchema_eq_ok.mp h
  obtain ⟨documents, hroot, hlower⟩ := lowerProgram_of_withoutIds hids hlowered
  have hr : s.registry.ReadsDraft7 schema := hregistry ▸ Registry.withBuiltins_readsDraft7 schema
  obtain ⟨node, hnode, halike⟩ := lowered_matches hids hlocal hr hroot hlower hinlined failFast data
    documents _ ⟨"#", "", 0, defaultBase, 0⟩ le_rfl
  -- the replacement is lowered without procedures, and means what it asks
  obtain ⟨-, -, hmeans⟩ := lowerSchema_made (I := fun _ => True) (satisfying_invariant hregistry hdata)
    _ _ _ _ _ _ trivial (congrFun hnode [])
  have hsatisfies := hmeans [] List.prefix_rfl hfree (fun _ _ => Run.stuck) failFast (.root data)
  obtain ⟨φ, hφ, hφ'⟩ := halike (.root data)
  have hiff : φ ↔ Satisfies s.formats inlined data := hφ'.iff_passes.symm.trans hsatisfies.iff_passes
  obtain ⟨valid, errors, hrun, hvalid⟩ := hφ []
  exact ⟨valid, errors, hrun, hvalid.trans hiff⟩

end

end JsonSchema
