import JsonSchema.Proofs.Draft7.Semantics

/-!
# Where strict mode narrows

Strict mode closes object schemas wherever they stand, so that what a schema with such schemas inside
accepts can become less or more: less if they stand where narrowing a part narrows the whole, and more
behind a negation.  `Json.Counts` says for each place of a schema inside an object with which sign it
counts, and `ClosesOneWay` that nothing is closed on the wrong side.
-/

set_option autoImplicit false

namespace JsonSchema

/-! ## What a closed object looks like -/

/-- The value of a keyword with the schemas in it closed. -/
def closedUnder (name : String) (v : Json) : Json :=
  if schemaMapKeywords.contains name then v.closedValues
  else if schemaKeywords.contains name then v.closed
  else v

theorem closedUnder_of_mem_maps {name : String} (h : name ∈ schemaMapKeywords) :
    closedUnder name = Json.closedValues := by
  funext v
  exact if_pos (List.contains_iff_mem.mpr h)

theorem closedUnder_of_mem {name : String} (hmap : name ∉ schemaMapKeywords) (h : name ∈ schemaKeywords) :
    closedUnder name = Json.closed := by
  funext v
  rw [closedUnder, if_neg (mt List.contains_iff_mem.mp hmap), if_pos (List.contains_iff_mem.mpr h)]

namespace Json

theorem closedItems_eq_map (items : List Json) : closedItems items = items.map closed := by
  induction items with
  | nil => rw [closedItems, List.map_nil]
  | cons v rest ih => rw [closedItems, ih, List.map_cons]

theorem closedEach_eq_map (members : List (String × Json)) :
    closedEach members = members.map fun m => (m.1, m.2.closed) := by
  induction members with
  | nil => rw [closedEach, List.map_nil]
  | cons m rest ih => rw [closedEach, ih, List.map_cons]

theorem closedMembers_eq_map (members : List (String × Json)) :
    closedMembers members = members.map fun m => (m.1, closedUnder m.1 m.2) := by
  induction members with
  | nil => rw [closedMembers, List.map_nil]
  | cons m rest ih =>
    rw [closedMembers, ih, List.map_cons]
    rfl

/-- The members of a closed object. -/
def closedObject (members : List (String × Json)) : List (String × Json) :=
  closedMembers members ++
    if isOpenObjectSchema members then [("additionalProperties", .bool false)] else []

theorem closed_obj (members : List (String × Json)) : (obj members).closed = obj (closedObject members) := by
  rw [closed, closedObject]

theorem closed_arr (items : List Json) : (arr items).closed = arr (items.map closed) := by
  rw [closed, closedItems_eq_map]

theorem closedValues_obj (members : List (String × Json)) :
    (obj members).closedValues = obj (members.map fun m => (m.1, m.2.closed)) := by
  rw [closedValues, closedEach_eq_map]

theorem lookup_closedMembers (members : List (String × Json)) (name : String) :
    (closedMembers members).lookup name = (members.lookup name).map (closedUnder name) := by
  rw [closedMembers_eq_map]
  induction members with
  | nil => rfl
  | cons m rest ih =>
    obtain ⟨key, v⟩ := m
    rw [List.map_cons, List.lookup_cons, List.lookup_cons]
    by_cases hkey : name = key
    · subst hkey
      simp
    · have hne : (name == key) = false := by simpa using hkey
      simpa only [hne] using ih

/-- A member is closed, and an open object schema is closed with a new member. -/
theorem lookup_closedObject (members : List (String × Json)) (name : String) :
    (closedObject members).lookup name = ((members.lookup name).map (closedUnder name)).or
      (if isOpenObjectSchema members ∧ name = "additionalProperties" then some (.bool false) else none) := by
  rw [closedObject, List.lookup_append, lookup_closedMembers]
  congr 1
  cases isOpenObjectSchema members with
  | false => rfl
  | true =>
    rw [if_pos rfl, List.lookup_cons]
    by_cases hname : name = "additionalProperties"
    · simp [hname]
    · have hne : (name == "additionalProperties") = false := by simpa using hname
      simp [hne, hname]

theorem lookup_closedObject_of_ne {members : List (String × Json)} {name : String}
    (hname : name ≠ "additionalProperties") :
    (closedObject members).lookup name = (members.lookup name).map (closedUnder name) := by
  rw [lookup_closedObject, if_neg fun h => hname h.2, Option.or_none]

/-- Keywords without schemas in their values keep them. -/
theorem lookup_closedObject_of_unlisted {members : List (String × Json)} {name : String}
    (hmap : name ∉ schemaMapKeywords) (hsingle : name ∉ schemaKeywords) :
    (closedObject members).lookup name = members.lookup name := by
  have hkeeps : closedUnder name = id := by
    funext v
    rw [closedUnder, if_neg (mt List.contains_iff_mem.mp hmap), if_neg (mt List.contains_iff_mem.mp hsingle)]
    rfl
  rw [lookup_closedObject_of_ne, hkeeps, Option.map_id]
  · rfl
  · rintro rfl
    exact hsingle (by decide)

end Json

theorem idOf?_closed (schema : Json) : idOf? schema.closed = idOf? schema := by
  cases schema with
  | obj members =>
    rw [Json.closed_obj]
    show ((Json.closedObject members).lookup "$id").bind Json.str? = (members.lookup "$id").bind Json.str?
    rw [Json.lookup_closedObject_of_unlisted (by decide) (by decide)]
  | arr items => rw [Json.closed_arr]; rfl
  | _ => rfl

/-! ## Signs -/

/-- Keywords that accept less if the schemas in their values do. -/
def narrowingKeywords : List String :=
  ["additionalProperties", "propertyNames", "items", "additionalItems", "contains", "then", "else",
    "allOf", "anyOf"]

/-- Keywords that accept less if the schemas that their values give to names do. -/
def narrowingMapKeywords : List String := ["properties", "patternProperties", "dependencies"]

/-- A schema directly inside an object counts with a sign: the object accepts less if the schema does, or
    more with the negative sign.  A condition counts for its branches: with the negative sign before
    `then`, with the positive sign before `else`.  One of several schemas counts with both signs.
    Definitions do not count. -/
inductive Json.Counts (members : List (String × Json)) : (positive : Bool) → Json → Prop where
  | single {keyword : String} {s : Json} : keyword ∈ narrowingKeywords →
      members.lookup keyword = some s → Counts members true s
  | listed {keyword : String} {ss : List Json} {s : Json} : keyword ∈ narrowingKeywords →
      members.lookup keyword = some (.arr ss) → s ∈ ss → Counts members true s
  | named {keyword : String} {ms : List (String × Json)} {m : String × Json} :
      keyword ∈ narrowingMapKeywords → members.lookup keyword = some (.obj ms) → m ∈ ms →
      Counts members true m.2
  | negated {s : Json} : members.lookup "not" = some s → Counts members false s
  | beforeThen {s : Json} : members.lookup "if" = some s → (members.lookup "then").isSome →
      Counts members false s
  | beforeElse {s : Json} : members.lookup "if" = some s → (members.lookup "else").isSome →
      Counts members true s
  | either {positive : Bool} {ss : List Json} {s : Json} : members.lookup "oneOf" = some (.arr ss) →
      s ∈ ss → Counts members positive s

/-- Closing the schema narrows it, or widens it with the negative sign: no object schema is closed where
    it counts with the other sign. -/
inductive ClosesOneWay : (positive : Bool) → Json → Prop where
  | obj {positive : Bool} {members : List (String × Json)} :
      (positive = false → isOpenObjectSchema members = false) →
      (∀ sign s, Json.Counts members sign s → ClosesOneWay (positive == sign) s) →
      ClosesOneWay positive (.obj members)
  | other {positive : Bool} {s : Json} : s.obj? = none → ClosesOneWay positive s

end JsonSchema
