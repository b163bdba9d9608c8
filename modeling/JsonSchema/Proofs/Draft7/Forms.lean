import JsonSchema.Proofs.Draft7.Agreement
import JsonSchema.Proofs.Json.Equality

/-!
# What schemas of some forms ask

A schema asks for its types, and for what the keywords ask that it has (`satisfies_obj`).  Which these are
is computed from its members, so that a schema that is written out asks for what its few keywords ask.
-/

set_option autoImplicit false

namespace JsonSchema

variable {formats : Formats} {members : List (String × Json)} {v : Json}

/-- The keywords of which a schema has a member. -/
def presentKeywords (members : List (String × Json)) : List BuiltinKeyword :=
  (BuiltinKeyword.groups.flatMap Prod.snd).filter fun k => (Rule.ofBuiltin k).isPresent members

/-- A schema asks for its types and what the keywords that it has ask for. -/
theorem satisfies_obj : Satisfies formats (.obj members) v ↔
    IsOfDeclaredType members v ∧ ∀ k ∈ presentKeywords members, Fulfils formats members k v := by
  have hlisted : ∀ k : BuiltinKeyword, k ∈ BuiltinKeyword.groups.flatMap Prod.snd := by
    intro k
    cases k <;> decide
  rw [Satisfies]
  refine and_congr_right fun _ => ⟨fun h k _ => h k, fun h k => ?_⟩
  cases hpresent : (Rule.ofBuiltin k).isPresent members with
  | true => exact h k (List.mem_filter.mpr ⟨hlisted k, hpresent⟩)
  | false => exact fulfils_of_absent hpresent

theorem isOfDeclaredType_absent (h : members.lookup "type" = none) : IsOfDeclaredType members v :=
  fun t types ht _ => absurd (h.symm.trans ht) (by simp)

theorem isOfDeclaredType_name {t : DataType} (h : members.lookup "type" = some (.str t.name)) :
    IsOfDeclaredType members v ↔ t.accepts v = true := by
  have ht : DataType.ofJson? (.str t.name) = some [t] := by cases t <;> rfl
  constructor
  · intro hdeclared
    obtain ⟨type, htype, haccepts⟩ := hdeclared _ [t] h ht
    exact List.mem_singleton.mp htype ▸ haccepts
  · intro haccepts declared types hdeclared htypes
    obtain rfl := Option.some.inj (h.symm.trans hdeclared)
    obtain rfl := Option.some.inj (ht.symm.trans htypes)
    exact ⟨t, List.mem_singleton_self t, haccepts⟩

/-- A schema that asks for a type alone. -/
theorem satisfies_type (t : DataType) :
    Satisfies formats (.obj [("type", .str t.name)]) v ↔ t.accepts v = true := by
  have hpresent : presentKeywords [("type", .str t.name)] = [] := rfl
  rw [satisfies_obj, hpresent, isOfDeclaredType_name rfl]
  simp

/-- A schema with one keyword. -/
theorem satisfies_keyword (k : BuiltinKeyword) (htype : members.lookup "type" = none)
    (hpresent : presentKeywords members = [k]) :
    Satisfies formats (.obj members) v ↔ Fulfils formats members k v := by
  rw [satisfies_obj, hpresent, List.forall_mem_singleton, and_iff_right (isOfDeclaredType_absent htype)]

theorem satisfies_const {allowed : Json} :
    Satisfies formats (.obj [("const", allowed)]) v ↔ v.equal allowed = true := by
  rw [satisfies_keyword .const rfl rfl, Fulfils]
  simp

theorem satisfies_enum {allowed : List Json} :
    Satisfies formats (.obj [("enum", .arr allowed)]) v ↔ ∃ a ∈ allowed, v.equal a = true := by
  rw [satisfies_keyword .enum rfl rfl, Fulfils]
  simp

theorem satisfies_not {s : Json} :
    Satisfies formats (.obj [("not", s)]) v ↔ ¬ Satisfies formats s v := by
  rw [satisfies_keyword .not rfl rfl, Fulfils]
  simp

theorem satisfies_anyOf {branches : List Json} :
    Satisfies formats (.obj [("anyOf", .arr branches)]) v ↔ ∃ s ∈ branches, Satisfies formats s v := by
  rw [satisfies_keyword .anyOf rfl rfl, Fulfils]
  simp

/-! ## Arrays -/

variable {vs : List Json}

theorem fulfils_items {s : Json} (hitems : members.lookup "items" = some s) (hs : s.arr? = none) :
    Fulfils formats members .items (.arr vs) ↔ ∀ e ∈ vs, Satisfies formats s e := by
  rw [Fulfils, hitems]
  constructor
  · exact fun h => (h vs rfl).1 s rfl hs
  · rintro h _ ⟨⟩
    refine ⟨fun t ht _ => Option.some.inj ht ▸ h, fun ss hss => ?_⟩
    obtain rfl := Option.some.inj hss
    cases hs

/-- A limit of one asks for an element, since no count that there is rounds to a double below one. -/
theorem fulfils_minItems_one (hlimit : members.lookup "minItems" = some (.num (.ofNat 1)))
    (hlength : vs.length ≤ UInt64.size) : Fulfils formats members .minItems (.arr vs) ↔ vs ≠ [] := by
  have hone : (Binary64.ofInt 1).units = Binary64.unitsPerOne := by
    rw [Binary64.ofInt_units (by decide), Int.one_mul]
  have hmeasure : Measure.items.fallsShortOf (.arr vs) (1 : Nat) =
      (Binary64.ofInt vs.length).lt (Binary64.ofInt 1) := rfl
  rw [Fulfils, hlimit]
  simp only [Option.some.injEq, forall_eq']
  rw [hmeasure, Binary64.lt, hone, decide_eq_false_iff_not, Int.not_lt]
  cases vs with
  | nil => exact iff_of_false (by decide +kernel) fun h => h rfl
  | cons v rest => simpa using Binary64.unitsPerOne_le_ofInt (Nat.succ_pos rest.length) hlength

theorem fulfils_uniqueItems (hunique : members.lookup "uniqueItems" = some (.bool true)) :
    Fulfils formats members .uniqueItems (.arr vs) ↔
      vs.Pairwise fun earlier later => later.equal earlier = false := by
  rw [Fulfils, hunique]
  simp

/-- A schema that asks for an array asks of one what its keywords ask. -/
theorem satisfies_arraySchema (htype : members.lookup "type" = some (.str "array")) :
    Satisfies formats (.obj members) (.arr vs) ↔
      ∀ k ∈ presentKeywords members, Fulfils formats members k (.arr vs) := by
  have haccepts : DataType.array.accepts (.arr vs) = true := rfl
  rw [satisfies_obj, isOfDeclaredType_name (t := .array) htype, and_iff_right haccepts]

/-- A schema that asks for an array, of elements that satisfy another. -/
theorem satisfies_array {s : Json} (hs : s.arr? = none) :
    Satisfies formats (.obj [("type", "array"), ("items", s)]) (.arr vs) ↔
      ∀ e ∈ vs, Satisfies formats s e := by
  have hpresent : presentKeywords [("type", "array"), ("items", s)] = [.items] := rfl
  rw [satisfies_arraySchema rfl, hpresent, List.forall_mem_singleton, fulfils_items rfl hs]

/-- A schema that asks for an array, of elements that satisfy another, and for one at least. -/
theorem satisfies_filledArray {s : Json} (hs : s.arr? = none) (hlength : vs.length ≤ UInt64.size) :
    Satisfies formats (.obj [("type", "array"), ("items", s), ("minItems", (1 : Nat))]) (.arr vs) ↔
      vs ≠ [] ∧ ∀ e ∈ vs, Satisfies formats s e := by
  have hpresent : presentKeywords [("type", "array"), ("items", s), ("minItems", (1 : Nat))] =
    [.minItems, .items] := rfl
  rw [satisfies_arraySchema rfl, hpresent, List.forall_mem_cons, List.forall_mem_singleton,
    fulfils_minItems_one rfl hlength, fulfils_items rfl hs]

/-! ## Objects -/

variable {ms : List (String × Json)}

theorem fulfils_required {name : String}
    (hname : members.lookup "required" = some (.arr [.str name])) :
    Fulfils formats members .required (.obj ms) ↔ (ms.lookup name).isSome := by
  rw [Fulfils, hname]
  simp

/-- A schema that asks for one member. -/
theorem satisfies_required {name : String} :
    Satisfies formats (.obj [("required", .arr [.str name])]) (.obj ms) ↔ (ms.lookup name).isSome := by
  rw [satisfies_keyword .required rfl rfl, fulfils_required rfl]

/-- What a member needs of the object around it: other members, or that the object satisfies a schema. -/
def NeedMet (formats : Formats) (ms : List (String × Json)) (need : Json) : Prop :=
  (∀ names, need = .arr names → ∀ name, .str name ∈ names → (ms.lookup name).isSome) ∧
    (need.arr? = none → Satisfies formats need (.obj ms))

theorem needMet_name {name : String} :
    NeedMet formats ms (.arr [.str name]) ↔ (ms.lookup name).isSome := by
  simp [NeedMet, Json.arr?]

theorem needMet_schema {s : List (String × Json)} :
    NeedMet formats ms (.obj s) ↔ Satisfies formats (.obj s) (.obj ms) :=
  ⟨fun h => h.2 rfl, fun h => ⟨by simp, fun _ => h⟩⟩

theorem fulfils_dependencies {needs : List (String × Json)}
    (hneeds : members.lookup "dependencies" = some (.obj needs)) :
    Fulfils formats members .dependencies (.obj ms) ↔
      ∀ need ∈ needs, (ms.lookup need.1).isSome → NeedMet formats ms need.2 := by
  rw [Fulfils, hneeds]
  constructor
  · exact fun h => h needs ms rfl rfl
  · rintro h _ _ ⟨⟩ ⟨⟩
    exact h

/-- Without other keywords for members, each schema is asked for under its own name. -/
theorem fulfils_properties {schemas : List (String × Json)}
    (hnamed : members.lookup "properties" = some (.obj schemas))
    (hpatterns : members.lookup "patternProperties" = none)
    (hothers : members.lookup "additionalProperties" = none) :
    Fulfils formats members .properties (.obj ms) ↔
      ∀ s ∈ schemas, ∀ w, ms.lookup s.1 = some w → Satisfies formats s.2 w := by
  rw [Fulfils, hnamed, hpatterns, hothers]
  constructor
  · exact fun h => (h ms rfl).1 schemas rfl
  · rintro h _ ⟨⟩
    refine ⟨?_, by simp, by simp⟩
    rintro _ ⟨⟩
    exact h

end JsonSchema
