import JsonSchema.Proofs.Lowering.Rewriting
import JsonSchema.Proofs.Reference.Local

/-!
# Schemas without some of their keywords

`Json.without` leaves keywords of given names out of a schema and out of every schema inside it.  Members
of other names keep their places, and values in which no schema stands are not touched: those of `const`,
`enum`, `default` and `examples`, the names that `properties` and the like give to schemas, and lists of
names in `dependencies`.

A schema that refers to nothing or has no `$id` inside stays so (`RefFree.without`,
`Json.WithoutIds.without`).
-/

set_option autoImplicit false

namespace JsonSchema

mutual

/-- A schema without the keywords of the given names, in itself and in all schemas inside. -/
def Json.without (names : List String) : Json → Json
  | .obj members => .obj (Json.membersWithout names members)
  | v => v

/-- The members of a schema that have other names, with the schemas among them. -/
def Json.membersWithout (names : List String) : List (String × Json) → List (String × Json)
  | [] => []
  | (name, v) :: rest =>
    if names.contains name then Json.membersWithout names rest
    else (name, Json.valueWithout names name v) :: Json.membersWithout names rest

/-- The value of a keyword, with the schemas in it. -/
def Json.valueWithout (names : List String) (keyword : String) : Json → Json
  | .obj members =>
    if schemaMapKeywords.contains keyword then .obj (Json.eachWithout names members)
    else if schemaKeywords.contains keyword then .obj (Json.membersWithout names members)
    else .obj members
  | .arr items =>
    if schemaKeywords.contains keyword then .arr (Json.itemsWithout names items) else .arr items
  | v => v

def Json.itemsWithout (names : List String) : List Json → List Json
  | [] => []
  | v :: rest => v.without names :: Json.itemsWithout names rest

def Json.eachWithout (names : List String) : List (String × Json) → List (String × Json)
  | [] => []
  | (name, v) :: rest => (name, v.without names) :: Json.eachWithout names rest

end

section

variable {names : List String}

theorem itemsWithout_eq_map (items : List Json) :
    Json.itemsWithout names items = items.map (Json.without names) := by
  induction items with
  | nil => rfl
  | cons v rest ih => rw [Json.itemsWithout, ih, List.map_cons]

theorem eachWithout_eq_map (members : List (String × Json)) :
    Json.eachWithout names members = members.map fun m => (m.1, m.2.without names) := by
  induction members with
  | nil => rfl
  | cons m rest ih => rw [Json.eachWithout, ih, List.map_cons]

theorem without_obj (members : List (String × Json)) :
    (Json.obj members).without names = .obj (Json.membersWithout names members) := by
  rw [Json.without]

/-- What is no object stays as it is. -/
theorem without_of_not_obj {v : Json} (h : v.obj? = none) : v.without names = v := by
  cases v with
  | obj _ => cases h
  | _ => rfl

/-! ## Values of keywords -/

theorem valueWithout_map {keyword : String} (hmap : keyword ∈ schemaMapKeywords)
    (members : List (String × Json)) :
    (Json.obj members).valueWithout names keyword =
      .obj (members.map fun m => (m.1, m.2.without names)) := by
  rw [Json.valueWithout, if_pos (by simpa using hmap), eachWithout_eq_map]

theorem valueWithout_arr {keyword : String} (hkeyword : keyword ∈ schemaKeywords) (items : List Json) :
    (Json.arr items).valueWithout names keyword = .arr (items.map (Json.without names)) := by
  rw [Json.valueWithout, if_pos (by simpa using hkeyword), itemsWithout_eq_map]

/-- No keyword has values both with schemas under names and with schemas in lists. -/
theorem notMem_schemaKeywords : ∀ keyword ∈ schemaMapKeywords, keyword ∉ schemaKeywords := by decide

/-- Leaving keywords out of a schema and of all schemas inside. -/
def Rewriting.omitting (names : List String) : Rewriting where
  schema := Json.without names
  value keyword v := v.valueWithout names keyword
  object members := ⟨_, without_obj members⟩
  other := without_of_not_obj
  single {keyword v} hkeyword harr := by
    have hmap : keyword ∉ schemaMapKeywords := fun hmap => notMem_schemaKeywords keyword hmap hkeyword
    cases v with
    | arr _ => cases harr
    | obj members => simp [Json.valueWithout, Json.without, hmap, hkeyword]
    | _ => rfl
  listed := valueWithout_arr
  named := valueWithout_map
  unnamed {keyword v} hmap hobj := by
    have hkeyword := notMem_schemaKeywords keyword hmap
    cases v with
    | obj _ => cases hobj
    | arr items => rw [Json.valueWithout, if_neg (by simpa using hkeyword)]
    | _ => rfl
  data hmap hkeyword v := by cases v <;> simp [Json.valueWithout, hmap, hkeyword]

/-! ## Members -/

theorem lookup_membersWithout (keyword : String) (members : List (String × Json)) :
    (Json.membersWithout names members).lookup keyword =
      if keyword ∈ names then none else (members.lookup keyword).map (Json.valueWithout names keyword) := by
  induction members with
  | nil => simp [Json.membersWithout]
  | cons m rest ih =>
    obtain ⟨name, v⟩ := m
    rw [Json.membersWithout, List.lookup_cons]
    by_cases hkeyword : keyword = name
    · subst hkeyword
      by_cases hname : keyword ∈ names
      · simp [hname, ih]
      · simp [hname]
    · have hne : (keyword == name) = false := by simpa using hkeyword
      rw [hne]
      split
      · exact ih
      · rw [List.lookup_cons, hne]
        exact ih

/-- A keyword that is not left out has a value exactly if it had one. -/
theorem lookup_membersWithout_of_notMem {keyword : String} (h : keyword ∉ names)
    (members : List (String × Json)) :
    (Json.membersWithout names members).lookup keyword =
      (members.lookup keyword).map (Json.valueWithout names keyword) := by
  rw [lookup_membersWithout, if_neg h]

/-- A name that no keyword has whose values hold schemas leads where it did, if anywhere. -/
theorem lookup_membersWithout_of_data {keyword : String} (hmap : keyword ∉ schemaMapKeywords)
    (hkeyword : keyword ∉ schemaKeywords) (members : List (String × Json)) :
    (Json.membersWithout names members).lookup keyword =
      if keyword ∈ names then none else members.lookup keyword := by
  rw [lookup_membersWithout]
  cases members.lookup keyword with
  | none => rfl
  | some v =>
    have hsame : v.valueWithout names keyword = v := (Rewriting.omitting names).data hmap hkeyword v
    rw [Option.map_some, hsame]

/-! ## Schemas inside -/

/-- The schemas inside stand for schemas that were inside before. -/
theorem Json.HasSubschema.of_without {members : List (String × Json)} {s' : Json}
    (h : Json.HasSubschema (Json.membersWithout names members) s') :
    ∃ s, Json.HasSubschema members s ∧ (Rewriting.omitting names).StandsFor s s' := by
  have hfound : ∀ {keyword v'}, (Json.membersWithout names members).lookup keyword = some v' →
      ∃ v, members.lookup keyword = some v ∧ (Rewriting.omitting names).value keyword v = v' := by
    intro keyword v' hlookup
    rw [lookup_membersWithout] at hlookup
    split at hlookup
    · cases hlookup
    · exact Option.map_eq_some_iff.mp hlookup
  cases h with
  | single hkeyword hlookup =>
    obtain ⟨v, hv, rfl⟩ := hfound hlookup
    exact ⟨v, .single hkeyword hv, .inr ⟨_, hkeyword, rfl⟩⟩
  | @listed keyword ss' s' hkeyword hlookup hs =>
    obtain ⟨v, hv, hvalue⟩ := hfound hlookup
    have harr : v.arr?.isSome = true := by
      rw [← (Rewriting.omitting names).value_isArr keyword v, hvalue]
      rfl
    cases v with
    | arr ss =>
      rw [(Rewriting.omitting names).listed hkeyword] at hvalue
      obtain rfl := Json.arr.inj hvalue
      obtain ⟨s, hmem, rfl⟩ := List.mem_map.mp hs
      exact ⟨s, .listed hkeyword hv hmem, .inl rfl⟩
    | _ => cases harr
  | @named keyword ms' m' hmap hlookup hm =>
    obtain ⟨v, hv, hvalue⟩ := hfound hlookup
    have hobj : v.obj?.isSome = true := by
      rw [← (Rewriting.omitting names).value_isObj keyword v, hvalue]
      rfl
    cases v with
    | obj ms =>
      rw [(Rewriting.omitting names).named hmap] at hvalue
      obtain rfl := Json.obj.inj hvalue
      obtain ⟨m, hmem, rfl⟩ := List.mem_map.mp hm
      exact ⟨m.2, .named hmap hv hmem, .inl rfl⟩
    | _ => cases hobj

/-- What refers to nothing does not do so without some of its keywords. -/
theorem RefFree.without {s : Json} (h : RefFree s) : RefFree (s.without names) := by
  induction h with
  | other hnot =>
    rw [without_of_not_obj hnot]
    exact .other hnot
  | @obj members href _ ih =>
    rw [without_obj]
    refine .obj ?_ fun s' hs' => ?_
    · rw [lookup_membersWithout_of_data (by decide) (by decide), href, ite_self]
    · obtain ⟨s, hs, hstands⟩ := hs'.of_without
      rcases hstands.schema_or_list with rfl | ⟨-, harr⟩
      · exact ih s hs
      · cases s' with
        | arr _ => exact .other rfl
        | _ => cases harr

theorem lookup_eachWithout (name : String) (members : List (String × Json)) :
    (Json.eachWithout names members).lookup name = (members.lookup name).map (Json.without names) := by
  induction members with
  | nil => rfl
  | cons m rest ih =>
    obtain ⟨first, v⟩ := m
    rw [Json.eachWithout, List.lookup_cons, List.lookup_cons, ih]
    cases name == first <;> rfl

mutual

/-- Where no `$id` was, none is left. -/
theorem Json.WithoutIds.without : ∀ {v : Json}, v.WithoutIds → (v.without names).WithoutIds
  | .obj members, h => by
    obtain ⟨hid, hmembers⟩ := withoutIds_obj.mp h
    rw [without_obj]
    refine withoutIds_obj.mpr ⟨?_, membersWithout_withoutIds members hmembers⟩
    rw [lookup_membersWithout_of_data (by decide) (by decide)]
    split
    · rfl
    · exact hid
  | .null, h | .bool _, h | .num _, h | .str _, h | .arr _, h => h

theorem membersWithout_withoutIds : ∀ members : List (String × Json), (∀ m ∈ members, m.2.WithoutIds) →
    ∀ m ∈ Json.membersWithout names members, m.2.WithoutIds
  | [], _ => nofun
  | (name, v) :: rest, h => by
    obtain ⟨hv, hrest⟩ := List.forall_mem_cons.mp h
    rw [Json.membersWithout]
    split
    · exact membersWithout_withoutIds rest hrest
    · exact List.forall_mem_cons.mpr ⟨valueWithout_withoutIds name v hv, membersWithout_withoutIds rest hrest⟩

theorem valueWithout_withoutIds (keyword : String) : ∀ v : Json, v.WithoutIds →
    (v.valueWithout names keyword).WithoutIds
  | .obj members, h => by
    obtain ⟨hid, hmembers⟩ := withoutIds_obj.mp h
    rw [Json.valueWithout]
    split_ifs
    -- a name that `properties` and the like give to a schema may be `$id`, but no schema is a text
    · refine withoutIds_obj.mpr ⟨?_, eachWithout_withoutIds members hmembers⟩
      rw [lookup_eachWithout]
      cases hlookup : members.lookup "$id" with
      | none => rfl
      | some v =>
        rw [hlookup] at hid
        cases v with
        | str _ => cases hid
        | _ => rfl
    · exact Json.WithoutIds.without (v := .obj members) h
    · exact h
  | .arr items, h => by
    rw [Json.valueWithout]
    split_ifs
    · rintro w (_ | ⟨hitem, hw⟩)
      · rfl
      · exact itemsWithout_withoutIds items (fun item hmem => h.inside (.element hmem (.here item))) _ hitem w hw
    · exact h
  | .null, h | .bool _, h | .num _, h | .str _, h => h

theorem itemsWithout_withoutIds : ∀ items : List Json, (∀ v ∈ items, v.WithoutIds) →
    ∀ v ∈ Json.itemsWithout names items, v.WithoutIds
  | [], _ => nofun
  | v :: rest, h => by
    obtain ⟨hv, hrest⟩ := List.forall_mem_cons.mp h
    exact List.forall_mem_cons.mpr ⟨hv.without, itemsWithout_withoutIds rest hrest⟩

theorem eachWithout_withoutIds : ∀ members : List (String × Json), (∀ m ∈ members, m.2.WithoutIds) →
    ∀ m ∈ Json.eachWithout names members, m.2.WithoutIds
  | [], _ => nofun
  | (_, v) :: rest, h => by
    obtain ⟨hv, hrest⟩ := List.forall_mem_cons.mp h
    exact List.forall_mem_cons.mpr ⟨hv.without, eachWithout_withoutIds rest hrest⟩

end

end

end JsonSchema
