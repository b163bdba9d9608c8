import JsonSchema.Proofs.Reference.Meaning
import JsonSchema.Proofs.Uri.Fragments

/-!
# References lead to finitely many keys

Bases change from schema to schema, so that one reference can lead to many targets.  But the key of a
target is the URI of a document with a pointer behind it at most, and the pointer is spelled out by the
reference, whatever the base (`Uri.read_fragment`).  **So as many keys can come up as there are documents,
times the references that can be written in them** (`Documents.key_mem_targetKeys`), and all schemas that
references lead to stand in the documents (`Documents.resolve_shows`).
-/

set_option autoImplicit false

namespace JsonSchema

/-- The pointer that a reference spells behind its hash. -/
def pointerIn (reference : String) : String :=
  String.ofList ((Percent.decode? ((Uri.fragmentIn? (Uri.significant reference)).getD [])).getD [])

theorem resolveUri_fragment_eq {base u : Uri} {reference : String} (h : resolveUri base reference = .ok u) :
    u.fragment = Uri.fragmentIn? (Uri.significant reference) := by
  unfold resolveUri at h
  cases hjoin : base.join reference with
  | error e =>
    rw [hjoin] at h
    cases h
  | ok joined =>
    rw [hjoin] at h
    obtain rfl := Except.ok.inj h
    exact Uri.read_fragment hjoin

namespace Documents

variable {docs : Documents} {schema : Json} {base : Uri} {reference : String} {target : Target}

/-! ## Keys -/

/-- The keys that targets of the references can have. -/
def targetKeys (docs : Documents) (references : List String) : List String :=
  docs.keys.flatMap fun key => key :: references.map fun reference => key ++ "#" ++ pointerIn reference

/-- **The key of a target is among those of its reference.** -/
theorem key_mem_targetKeys {references : List String} (hmem : reference ∈ references)
    (h : docs.resolve base reference = .ok target) : target.key ∈ docs.targetKeys references := by
  obtain ⟨u, hu, hfound⟩ := exists_foundAt h
  cases hfound with
  | name _ hschema =>
    exact List.mem_flatMap.mpr ⟨u.text, (docs.mem_keys_iff _).mpr ⟨_, hschema⟩, List.mem_cons_self⟩
  | @pointer root _ _ pointer _ _ hroot hpointer _ _ =>
    have hspelled : String.ofList pointer = pointerIn reference := by
      unfold pointerIn
      rw [← resolveUri_fragment_eq hu, hpointer]
      rfl
    rw [hspelled]
    refine List.mem_flatMap.mpr ⟨_, (docs.mem_keys_iff _).mpr ⟨root, hroot⟩, List.mem_cons_of_mem _ ?_⟩
    exact List.mem_map.mpr ⟨reference, hmem, rfl⟩

theorem length_targetKeys (docs : Documents) (references : List String) :
    (docs.targetKeys references).length = docs.entries.length * (references.length + 1) := by
  unfold targetKeys Table.keys
  rw [List.length_flatMap]
  simp [Function.comp_def]

/-! ## Where schemas stand -/

/-- A schema and the documents. -/
def sources (docs : Documents) (schema : Json) : List Json := schema :: docs.entries.map Prod.snd

/-- The value stands in the schema or in a document, or it is the `null` of a keyword that is absent. -/
def Shows (docs : Documents) (schema v : Json) : Prop :=
  v = .null ∨ ∃ source ∈ docs.sources schema, v.Inside source

theorem Shows.inside {v w : Json} (h : docs.Shows schema v) (hne : v ≠ .null) (hw : w.Inside v) :
    docs.Shows schema w := by
  obtain rfl | ⟨source, hsource, hv⟩ := h
  · exact absurd rfl hne
  · exact .inr ⟨source, hsource, hw.trans hv⟩

theorem shows_self (docs : Documents) (schema : Json) : docs.Shows schema schema :=
  .inr ⟨schema, List.mem_cons_self, .here schema⟩

/-- **What a reference leads to stands in a document.** -/
theorem resolve_shows (h : docs.resolve base reference = .ok target) : docs.Shows schema target.schema := by
  have hfiled : ∀ {uri : String} {root : Json}, docs.get? uri = some root → root ∈ docs.sources schema := by
    intro uri root hroot
    refine List.mem_cons_of_mem _ (List.mem_map.mpr ⟨(uri, root), ?_, rfl⟩)
    exact (docs.mem_entries_iff uri root).mpr hroot
  obtain ⟨u, -, hfound⟩ := exists_foundAt h
  cases hfound with
  | name _ hschema => exact .inr ⟨_, hfiled hschema, .here _⟩
  | pointer _ hroot _ _ hfollow => exact .inr ⟨_, hfiled hroot, follow_inside hfollow⟩

/-! ## Sizes -/

/-- The number of values in a schema and the documents. -/
def valueCount (docs : Documents) (schema : Json) : Nat := Json.sizeItems (docs.sources schema)

theorem loweringBudget_eq (docs : Documents) (schema : Json) :
    loweringBudget schema docs = 2 * (docs.valueCount schema + 1) *
      (docs.entries.length * (docs.valueCount schema + 1) + 1) + expansionAllowance := by
  have hsum : ∀ (entries : List (String × Json)) (n : Nat),
      entries.foldl (fun n e => n + e.2.size) n = n + Json.sizeItems (entries.map Prod.snd) := by
    intro entries
    induction entries with
    | nil => exact fun n => rfl
    | cons e rest ih =>
      intro n
      rw [List.foldl_cons, ih, List.map_cons, Json.sizeItems, Nat.add_assoc]
  unfold loweringBudget valueCount sources
  rw [hsum, Json.sizeItems]

end Documents

theorem Json.size_pos (v : Json) : 0 < v.size := by
  cases v <;> exact Nat.succ_pos _

theorem Json.Inside.size_le {v w : Json} (h : w.Inside v) : w.size ≤ v.size := by
  induction h with
  | here => exact Nat.le_refl _
  | element hitem _ ih => exact ih.trans ((Json.size_le_sizeItems hitem).trans (Nat.le_succ _))
  | member hm _ ih => exact ih.trans ((Json.size_le_sizeMembers hm).trans (Nat.le_succ _))

mutual

theorem Json.length_insides : ∀ v : Json, v.insides.length = v.size
  | .arr items => by
    rw [insides, size, List.length_cons, Json.length_insidesOfItems items]
  | .obj members => by
    rw [insides, size, List.length_cons, Json.length_insidesOfMembers members]
  | .null | .bool _ | .num _ | .str _ => rfl

theorem Json.length_insidesOfItems : ∀ items : List Json, (insidesOfItems items).length = sizeItems items
  | [] => rfl
  | v :: rest => by
    rw [insidesOfItems, sizeItems, List.length_append, Json.length_insides v, Json.length_insidesOfItems rest]

theorem Json.length_insidesOfMembers :
    ∀ members : List (String × Json), (insidesOfMembers members).length = sizeMembers members
  | [] => rfl
  | (_, v) :: rest => by
    rw [insidesOfMembers, sizeMembers, List.length_append, Json.length_insides v,
      Json.length_insidesOfMembers rest]

end

namespace Documents

variable {docs : Documents} {schema : Json}

theorem Shows.size_le {v : Json} (h : docs.Shows schema v) : v.size ≤ docs.valueCount schema := by
  have hsource : ∀ source ∈ docs.sources schema, source.size ≤ docs.valueCount schema :=
    fun _ => Json.size_le_sizeItems
  obtain rfl | ⟨source, hmem, hv⟩ := h
  · exact (Json.size_pos schema).trans_le (hsource schema List.mem_cons_self)
  · exact hv.size_le.trans (hsource source hmem)

/-! ## References -/

/-- The texts in a schema and the documents, and the empty one, which stands for a reference that is none. -/
def texts (docs : Documents) (schema : Json) : List String :=
  "" :: (Json.insidesOfItems (docs.sources schema)).filterMap Json.str?

theorem length_texts_le (docs : Documents) (schema : Json) :
    (docs.texts schema).length ≤ docs.valueCount schema + 1 := by
  rw [texts, List.length_cons, valueCount, ← Json.length_insidesOfItems]
  exact Nat.succ_le_succ (List.length_filterMap_le _ _)

/-- The reference of a rule is one of these texts. -/
theorem reference_mem_texts {members : List (String × Json)} (h : docs.Shows schema (.obj members))
    (rule : Rule) : rule.reference members ∈ docs.texts schema := by
  obtain hnull | ⟨source, hsource, hinside⟩ := h
  · cases hnull
  · unfold Rule.reference
    cases hlookup : members.lookup rule.keyword with
    | none => exact List.mem_cons_self
    | some v =>
      cases htext : v.str? with
      | none => rw [Option.getD_some, htext]; exact List.mem_cons_self
      | some text =>
        rw [Option.getD_some, htext]
        have hv : v.Inside source := (Json.Inside.member (mem_of_lookup hlookup) (.here v)).trans hinside
        have hmem := Json.mem_insidesOfItems hsource hv.mem_insides
        exact List.mem_cons_of_mem _ (List.mem_filterMap.mpr ⟨v, hmem, htext⟩)

/-- The keys that can come up while a schema is lowered among documents. -/
def reachableKeys (docs : Documents) (schema : Json) : List String := docs.targetKeys (docs.texts schema)

/-- The budget covers one schema for each key, with all values inside each. -/
theorem length_reachableKeys_lt (docs : Documents) (schema : Json) :
    docs.valueCount schema + (docs.reachableKeys schema).length * (docs.valueCount schema + 1) <
      loweringBudget schema docs := by
  have htexts := length_texts_le docs schema
  rw [reachableKeys, length_targetKeys, loweringBudget_eq]
  generalize docs.valueCount schema = values at *
  generalize docs.entries.length = count
  generalize (docs.texts schema).length = texts at *
  have hkeys : count * (texts + 1) ≤ count * (2 * (values + 1)) := Nat.mul_le_mul_left _ (by omega)
  have hproduct := Nat.mul_le_mul_right (values + 1) hkeys
  have hbudget : 2 * (values + 1) * (count * (values + 1) + 1) =
      count * (2 * (values + 1)) * (values + 1) + 2 * (values + 1) := by
    rw [Nat.mul_succ, Nat.mul_comm count (2 * (values + 1)), Nat.mul_assoc (2 * (values + 1)) count]
  rw [hbudget]
  omega

end Documents

end JsonSchema
