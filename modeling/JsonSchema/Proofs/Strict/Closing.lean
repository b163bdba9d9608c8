import JsonSchema.Proofs.Strict.Polarity

/-!
# What strict mode changes

Strict mode takes a value as a schema, as an object that gives schemas to names, or as data, depending
on where it stands (`Json.Role`).  `Json.at?` follows a path into a value and says what stands at its
end and in which role.

Closing a schema leaves everything in its place.  All that it adds are members
`additionalProperties: false` at the end of object schemas that said nothing about additional
properties, and closing again adds nothing (**`Json.closed_adds_only_last_members`**).
-/

set_option autoImplicit false

namespace JsonSchema.Json

/-! ## Roles and paths -/

/-- How strict mode takes a value: as a schema or an array of schemas, as an object that gives schemas
    to names, or as data. -/
inductive Role where
  | schema
  | schemaMap
  | data
  deriving DecidableEq

/-- The role of a member of an object. -/
def Role.ofMember : Role → String → Role
  | .schema, name =>
    if name ∈ schemaMapKeywords then .schemaMap
    else if name ∈ schemaKeywords then .schema
    else .data
  | .schemaMap, _ => .schema
  | .data, _ => .data

/-- The role of an item of an array. -/
def Role.ofItem : Role → Role
  | .schema => .schema
  | .schemaMap | .data => .data

/-- The members of an object or the items of an array, with their roles. -/
def partsIn (role : Role) : Json → List (Role × Json)
  | .obj members => members.map fun m => (role.ofMember m.1, m.2)
  | .arr items => items.map fun v => (role.ofItem, v)
  | _ => []

/-- What stands at the end of a path, with its role.  A path numbers the parts to go into. -/
def at? (role : Role) (v : Json) : List Nat → Option (Role × Json)
  | [] => some (role, v)
  | i :: path => (v.partsIn role)[i]?.bind fun p => p.2.at? p.1 path

/-- A value, by what it shows without its parts, is still the one it was: its members have the names they
    had and there are as many items.  An open object schema gets a member at the end. -/
inductive KeepsFront : Role → Json → Json → Prop where
  | closing {members members' : List (String × Json)} : isOpenObjectSchema members = true →
      (members'.map (·.1) = members.map (·.1) ++ ["additionalProperties"]) →
      members'.getLast? = some ("additionalProperties", .bool false) →
      KeepsFront .schema (.obj members) (.obj members')
  | members {role : Role} {members members' : List (String × Json)} :
      (role = .schema → isOpenObjectSchema members = false) →
      members'.map (·.1) = members.map (·.1) → KeepsFront role (.obj members) (.obj members')
  | items {role : Role} {items items' : List Json} : items'.length = items.length →
      KeepsFront role (.arr items) (.arr items')
  | plain {role : Role} {v : Json} : v.obj? = none → v.arr? = none → KeepsFront role v v

/-! ## Closing again -/

theorem isObjectSchema_closedObject (members : List (String × Json)) :
    isObjectSchema (closedObject members) = isObjectSchema members := by
  have htype : (closedObject members).lookup "type" = members.lookup "type" :=
    lookup_closedObject_of_unlisted (by decide) (by decide)
  have hkeywords : ∀ keyword ∈ objectKeywords,
      ((closedObject members).lookup keyword).isSome = (members.lookup keyword).isSome := by
    intro keyword hmem
    have hne : keyword ≠ "additionalProperties" := fun h => absurd (h ▸ hmem) (by decide)
    rw [lookup_closedObject_of_ne hne, Option.isSome_map]
  have hany : (objectKeywords.any fun keyword => ((closedObject members).lookup keyword).isSome) =
      objectKeywords.any fun keyword => (members.lookup keyword).isSome := by
    rw [Bool.eq_iff_iff, List.any_eq_true, List.any_eq_true]
    exact exists_congr fun keyword => and_congr_right fun hmem => by rw [hkeywords keyword hmem]
  rw [isObjectSchema, isObjectSchema, htype, hany]

/-- A closed object schema says something about additional properties. -/
theorem additionalProperties_closedObject {members : List (String × Json)}
    (h : isObjectSchema members = true) :
    ((closedObject members).lookup "additionalProperties").isSome = true := by
  rw [lookup_closedObject]
  cases hlookup : members.lookup "additionalProperties" with
  | some v => rfl
  | none =>
    have hopen : isOpenObjectSchema members = true := by rw [isOpenObjectSchema, h, hlookup]; rfl
    simp [hopen]

theorem isOpenObjectSchema_closedObject (members : List (String × Json)) :
    isOpenObjectSchema (closedObject members) = false := by
  rw [isOpenObjectSchema, isObjectSchema_closedObject]
  cases h : isObjectSchema members with
  | false => rfl
  | true =>
    obtain ⟨v, hv⟩ := Option.isSome_iff_exists.mp (additionalProperties_closedObject h)
    rw [hv]
    rfl

theorem closedMembers_append (members more : List (String × Json)) :
    closedMembers (members ++ more) = closedMembers members ++ closedMembers more := by
  simp only [closedMembers_eq_map, List.map_append]

mutual

theorem closed_closed : (v : Json) → v.closed.closed = v.closed
  | .obj members => by
    have hnew : isOpenObjectSchema (closedObject members) = false := isOpenObjectSchema_closedObject members
    rw [closed_obj, closed_obj, closedObject, hnew, if_neg Bool.false_ne_true, List.append_nil, closedObject,
      closedMembers_append, closedMembers_closedMembers]
    congr 2
    split <;> rfl
  | .arr items => by rw [closed, closed, closedItems_closedItems]
  | .null | .bool _ | .num _ | .str _ => rfl

theorem closedItems_closedItems : (items : List Json) → closedItems (closedItems items) = closedItems items
  | [] => rfl
  | v :: rest => by rw [closedItems, closedItems, closed_closed, closedItems_closedItems]

theorem closedMembers_closedMembers :
    (members : List (String × Json)) → closedMembers (closedMembers members) = closedMembers members
  | [] => rfl
  | (name, v) :: rest => by
    rw [closedMembers, closedMembers, closedMembers_closedMembers rest]
    congr 2
    split
    · exact closedValues_closedValues v
    · split
      · exact closed_closed v
      · rfl

theorem closedValues_closedValues : (v : Json) → v.closedValues.closedValues = v.closedValues
  | .obj members => by rw [closedValues, closedValues, closedEach_closedEach]
  | .null | .bool _ | .num _ | .str _ | .arr _ => rfl

theorem closedEach_closedEach :
    (members : List (String × Json)) → closedEach (closedEach members) = closedEach members
  | [] => rfl
  | (name, v) :: rest => by rw [closedEach, closedEach, closed_closed, closedEach_closedEach]

end

/-! ## Values in their places -/

/-- What strict mode makes of a value in a role. -/
def Role.close : Role → Json → Json
  | .schema => closed
  | .schemaMap => closedValues
  | .data => id

theorem Role.close_ofMember_schema (name : String) : (Role.ofMember .schema name).close = closedUnder name := by
  funext v
  by_cases hmap : name ∈ schemaMapKeywords
  · rw [ofMember, if_pos hmap, closedUnder_of_mem_maps hmap, close]
  · by_cases hsingle : name ∈ schemaKeywords
    · rw [ofMember, if_neg hmap, if_pos hsingle, closedUnder_of_mem hmap hsingle, close]
    · rw [ofMember, if_neg hmap, if_neg hsingle, closedUnder, if_neg (mt List.contains_iff_mem.mp hmap),
        if_neg (mt List.contains_iff_mem.mp hsingle), close, id]

/-- The part that closing adds. -/
def addedIn : Role → Json → List (Role × Json)
  | .schema, .obj members => if isOpenObjectSchema members then [(.schema, .bool false)] else []
  | _, _ => []

/-- The parts of a closed value are the parts of the value, closed in their roles, and the added one. -/
theorem partsIn_close (role : Role) (v : Json) :
    (role.close v).partsIn role = (v.partsIn role).map (fun p => (p.1, p.1.close p.2)) ++ addedIn role v := by
  cases v with
  | obj members =>
    cases role with
    | schema =>
      have hadded : (if isOpenObjectSchema members then [("additionalProperties", Json.bool false)] else []).map
          (fun m => (Role.ofMember .schema m.1, m.2)) = addedIn .schema (.obj members) := by
        rw [addedIn]
        split <;> rfl
      rw [Role.close, closed_obj, partsIn, closedObject, closedMembers_eq_map, List.map_append, hadded,
        List.map_map, partsIn, List.map_map]
      congr 1
      refine List.map_congr_left fun m _ => ?_
      simp only [Function.comp_apply, Role.close_ofMember_schema]
    | schemaMap =>
      rw [Role.close, closedValues_obj, partsIn, partsIn, List.map_map, List.map_map, addedIn, List.append_nil]
      · rfl
      · simp
    | data => simp [Role.close, partsIn, addedIn, Role.ofMember]
  | arr items =>
    cases role with
    | schema => simp [Role.close, closed_arr, partsIn, addedIn, Role.ofItem]
    | schemaMap => simp [Role.close, closedValues, partsIn, addedIn, Role.ofItem]
    | data => simp [Role.close, partsIn, addedIn, Role.ofItem]
  | null | bool | num | str => cases role <;> rfl

/-- What stands in a value stands closed at the same place of the closed value. -/
theorem at?_close {role role' : Role} {v w : Json} {path : List Nat}
    (h : v.at? role path = some (role', w)) :
    (role.close v).at? role path = some (role', role'.close w) := by
  induction path generalizing role v with
  | nil =>
    obtain ⟨rfl, rfl⟩ : role = role' ∧ v = w := by simpa [at?] using h
    rfl
  | cons i path ih =>
    rw [at?] at h ⊢
    obtain ⟨p, hp, hrest⟩ := Option.bind_eq_some_iff.mp h
    have hpart : ((role.close v).partsIn role)[i]? = some (p.1, p.1.close p.2) := by
      rw [partsIn_close, List.getElem?_append_left, List.getElem?_map, hp, Option.map_some]
      rw [List.length_map]
      exact (List.getElem?_eq_some_iff.mp hp).1
    rw [hpart, Option.bind_some]
    exact ih hrest

theorem addedIn_eq_some {role : Role} {v : Json} {i : Nat} {p : Role × Json}
    (h : (addedIn role v)[i]? = some p) :
    i = 0 ∧ p = (.schema, .bool false) ∧
      ∃ members, role = .schema ∧ v = .obj members ∧ isOpenObjectSchema members = true := by
  cases role <;> cases v <;> simp only [addedIn, List.getElem?_nil, reduceCtorEq] at h
  case schema.obj members =>
    cases hopen : isOpenObjectSchema members with
    | false => simp [hopen] at h
    | true =>
      rw [hopen, if_pos rfl, List.getElem?_singleton] at h
      obtain ⟨hi, hp⟩ := Option.ite_none_right_eq_some.mp h
      exact ⟨hi, (Option.some_inj.mp hp).symm, members, rfl, rfl, hopen⟩

/-- What stands in a closed value is a closed value of that place, or a member added to an open object
    schema. -/
theorem at?_of_close {role role' : Role} {v w : Json} {path : List Nat}
    (h : (role.close v).at? role path = some (role', w)) :
    (∃ u, v.at? role path = some (role', u) ∧ w = role'.close u) ∨
      ∃ front members, v.at? role front = some (.schema, .obj members) ∧
        isOpenObjectSchema members = true ∧ path = front ++ [members.length] ∧ role' = .schema ∧
        w = .bool false := by
  induction path generalizing role v with
  | nil =>
    obtain ⟨rfl, rfl⟩ : role = role' ∧ role.close v = w := by simpa [at?] using h
    exact .inl ⟨v, rfl, rfl⟩
  | cons i path ih =>
    rw [at?, partsIn_close] at h
    obtain ⟨p, hp, hrest⟩ := Option.bind_eq_some_iff.mp h
    rw [List.getElem?_append, List.length_map] at hp
    split at hp
    case isTrue hlt =>
      rw [List.getElem?_map, List.getElem?_eq_getElem hlt, Option.map_some, Option.some_inj] at hp
      subst hp
      have hat : ∀ front, v.at? role (i :: front) =
          ((v.partsIn role)[i]).2.at? ((v.partsIn role)[i]).1 front := fun front => by
        rw [at?, List.getElem?_eq_getElem hlt, Option.bind_some]
      rcases ih hrest with ⟨u, hu, hw⟩ | ⟨front, members, hfront, hopen, hpath, hrole, hw⟩
      · exact .inl ⟨u, (hat path).trans hu, hw⟩
      · exact .inr ⟨i :: front, members, (hat front).trans hfront, hopen, by rw [hpath]; rfl, hrole, hw⟩
    case isFalse hge =>
      obtain ⟨hi, rfl, members, rfl, rfl, hopen⟩ := addedIn_eq_some hp
      have hi : i = members.length := by
        have hlength : ((Json.obj members).partsIn .schema).length = members.length := by simp [partsIn]
        omega
      cases path with
      | nil =>
        obtain ⟨rfl, rfl⟩ : Role.schema = role' ∧ Json.bool false = w := by simpa [at?] using hrest
        exact .inr ⟨[], members, rfl, hopen, by rw [hi]; rfl, rfl, rfl⟩
      | cons j path => simp [at?, partsIn] at hrest

theorem keepsFront_close (role : Role) (v : Json) : KeepsFront role v (role.close v) := by
  cases v with
  | obj members =>
    cases role with
    | schema =>
      rw [Role.close, closed_obj]
      cases hopen : isOpenObjectSchema members with
      | true =>
        refine .closing hopen ?_ ?_
        · rw [closedObject, hopen, closedMembers_eq_map]
          simp
        · rw [closedObject, hopen]
          simp
      | false =>
        refine .members (fun _ => hopen) ?_
        rw [closedObject, hopen, closedMembers_eq_map]
        simp
    | schemaMap =>
      rw [Role.close, closedValues_obj]
      exact .members (fun h => nomatch h) (by simp)
    | data => exact .members (fun h => nomatch h) rfl
  | arr items =>
    cases role with
    | schema =>
      rw [Role.close, closed_arr]
      exact .items (List.length_map _)
    | schemaMap | data => exact .items rfl
  | null | bool | num | str =>
    cases role <;> exact .plain rfl rfl

/-- An object schema in a closed value says something about additional properties. -/
theorem additionalProperties_of_at?_closed {s : Json} {path : List Nat} {members : List (String × Json)}
    (h : s.closed.at? .schema path = some (.schema, .obj members)) (hobject : isObjectSchema members = true) :
    (members.lookup "additionalProperties").isSome = true := by
  have hclosed : (Role.schema.close s).at? .schema path = some (.schema, .obj members) := h
  rcases at?_of_close hclosed with ⟨u, -, hu⟩ | ⟨_, _, _, _, _, _, hw⟩
  · cases u with
    | obj inner =>
      rw [Role.close, closed_obj, obj.injEq] at hu
      subst hu
      rw [isObjectSchema_closedObject] at hobject
      exact additionalProperties_closedObject hobject
    | _ => cases hu
  · cases hw

/-- The value of a member of a schema that strict mode does not know is kept. -/
theorem member_of_at?_closed {s : Json} {path : List Nat} {members : List (String × Json)} {i : Nat}
    {name : String} {v : Json} (h : s.at? .schema path = some (.schema, .obj members))
    (hmember : members[i]? = some (name, v)) (hname : name ∉ schemaMapKeywords ++ schemaKeywords) :
    ∃ members', s.closed.at? .schema path = some (.schema, .obj members') ∧
      members'[i]? = some (name, v) := by
  obtain ⟨hmap, hsingle⟩ := not_or.mp (mt List.mem_append.mpr hname)
  have hkeeps : closedUnder name v = v := by
    rw [closedUnder, if_neg (mt List.contains_iff_mem.mp hmap), if_neg (mt List.contains_iff_mem.mp hsingle)]
  have hlt : i < (closedMembers members).length := by
    rw [closedMembers_eq_map, List.length_map]
    exact (List.getElem?_eq_some_iff.mp hmember).1
  refine ⟨closedObject members, (at?_close h).trans (by rw [Role.close, closed_obj]), ?_⟩
  rw [closedObject, List.getElem?_append_left hlt, closedMembers_eq_map, List.getElem?_map, hmember,
    Option.map_some, hkeeps]

/-- What strict mode changes in a schema.  Closing it again changes nothing.  Each object schema in the
    closed one says something about additional properties.  Everything stands where it stood, in its
    role, with what it showed except for the member at the end of an open object schema, and all else
    that stands in the closed schema is such a member.  Data is what it was; so are the values of
    members of schemas that strict mode does not know. -/
theorem closed_adds_only_last_members (s : Json) :
    s.closed.closed = s.closed ∧
    (∀ path members, s.closed.at? .schema path = some (.schema, .obj members) →
      isObjectSchema members = true → (members.lookup "additionalProperties").isSome = true) ∧
    (∀ path role v, s.at? .schema path = some (role, v) →
      ∃ w, s.closed.at? .schema path = some (role, w) ∧ KeepsFront role v w) ∧
    (∀ path role w, s.closed.at? .schema path = some (role, w) → s.at? .schema path = none →
      w = .bool false ∧ ∃ front members, path = front ++ [members.length] ∧
        s.at? .schema front = some (.schema, .obj members) ∧ isOpenObjectSchema members = true) ∧
    (∀ path v, s.at? .schema path = some (.data, v) → s.closed.at? .schema path = some (.data, v)) ∧
    (∀ path (members : List (String × Json)) (i : Nat) name v,
      s.at? .schema path = some (.schema, .obj members) → members[i]? = some (name, v) →
      (name ∈ ["const", "enum", "default", "examples"] ∨ name ∉ schemaMapKeywords ++ schemaKeywords) →
      ∃ members', s.closed.at? .schema path = some (.schema, .obj members') ∧
        members'[i]? = some (name, v)) := by
  refine ⟨closed_closed s, fun _ _ hat => additionalProperties_of_at?_closed hat, ?_, ?_,
    fun _ _ hat => at?_close hat, ?_⟩
  · intro path role v hat
    exact ⟨role.close v, at?_close hat, keepsFront_close role v⟩
  · intro path role w hat hnew
    have hclosed : (Role.schema.close s).at? .schema path = some (role, w) := hat
    rcases at?_of_close hclosed with ⟨u, hu, -⟩ | ⟨front, members, hfront, hopen, hpath, -, hw⟩
    · rw [hnew] at hu
      cases hu
    · exact ⟨hw, front, members, hpath, hfront, hopen⟩
  · intro path members i name v hat hmember hname
    have hdata : ∀ name ∈ ["const", "enum", "default", "examples"],
        name ∉ schemaMapKeywords ++ schemaKeywords := by decide
    exact member_of_at?_closed hat hmember (hname.elim (hdata name) id)

end JsonSchema.Json
