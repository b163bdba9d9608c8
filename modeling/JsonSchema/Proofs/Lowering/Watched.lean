import JsonSchema.Proofs.Lowering.Refusals
import JsonSchema.Proofs.Reference.TargetKeys

/-!
# Lowering ends by itself

Lowering goes down into a schema and jumps to the targets of references, which may stand anywhere.  Its
budget makes it a function; here it is shown that the budget is never used up.  Lowering under watch
(`lowerWatched`) refuses with an alarm of one's choice where it would be, or where two procedures are for
targets of one key.  **Where no keyword expands to a schema, lowering with and without the watch are the
same** (`lowerWatched_eq`), whatever is added to the budget.

What gets smaller is the number of keys that have no procedure yet, and while that stays the same, the
schema: a reference to a new target starts on a schema that may be as large as all documents together, but
takes one key away.

So if lowering says that a schema is too deep, this is what the check of a keyword's values or the code of a
custom keyword says (`lowerSchema_tooDeep`).
-/

set_option autoImplicit false

namespace JsonSchema

open LowerM

/-- Whether the keyword of a rule expands to a schema. -/
def Rule.isMacro (rule : Rule) : Bool := rule.definition?.any (·.expand.isSome)

/-- No keyword of the registry expands to a schema. -/
def Registry.WithoutMacros (r : Registry) : Prop :=
  ∀ group ∈ r.groups, ∀ rule ∈ group.rules, rule.isMacro = false

instance (r : Registry) : Decidable r.WithoutMacros :=
  inferInstanceAs (Decidable (∀ group ∈ r.groups, ∀ rule ∈ group.rules, rule.isMacro = false))

theorem Registry.WithoutMacros.expand_eq_none {env : Environment} (h : env.registry.WithoutMacros)
    {members : List (String × Json)} {rule : Rule} (hreads : env.Reads members rule) {d : KeywordDefinition}
    (hrule : rule.implementation = .custom d) : d.expand = none := by
  obtain ⟨group, hgroup, hmem⟩ := hreads
  have hmacro := h group hgroup rule (List.mem_of_mem_filter hmem)
  unfold Rule.isMacro Rule.definition? at hmacro
  rw [hrule] at hmacro
  simpa using hmacro

/-- The keys that procedures are for. -/
def procedureKeys (procedures : List Procedure) : List String :=
  (procedures.map Procedure.target).map Target.key

/-- One level of lowering; the schemas that an object hands on are lowered in the given way. -/
def lowerLevel (env : Environment) (lower : Lower) : Lower
  | .obj members, position => do
    let base ← liftExcept (schemaBase (.obj members) position.base)
    lowerObject lower env members { position with base }
  | schema, position => lowerSchema env 1 schema position

/-- Lowers a schema, but refuses with the alarm where the budget is used up or two procedures have one key. -/
def lowerWatched (env : Environment) (alarm : SchemaError) : (budget : Nat) → Lower
  | 0, _, _ => refuse alarm
  | budget + 1, schema, position => fun procedures =>
    if (procedureKeys procedures).Nodup then
      lowerLevel env (lowerWatched env alarm budget) schema position procedures
    else .error alarm

/-! ## Levels -/

section

variable {env : Environment} {lower lower' : Lower} {schema : Json} {position : Position}

theorem lowerSchema_succ (env : Environment) (budget : Nat) (schema : Json) (position : Position) :
    lowerSchema env (budget + 1) schema position = lowerLevel env (lowerSchema env budget) schema position := by
  cases schema with
  | bool allowed => cases allowed <;> rfl
  | _ => rfl

theorem lowerWatched_of_nodup {alarm : SchemaError} {procedures : List Procedure}
    (h : (procedureKeys procedures).Nodup) (budget : Nat) :
    lowerWatched env alarm (budget + 1) schema position procedures =
      lowerLevel env (lowerWatched env alarm budget) schema position procedures := by
  rw [lowerWatched]
  exact if_pos h

theorem lowerLevel_obj {members : List (String × Json)} {base : Uri}
    (h : schemaBase (.obj members) position.base = .ok base) :
    lowerLevel env lower (.obj members) position = lowerObject lower env members { position with base } := by
  rw [lowerLevel, h]
  rfl

theorem lowerLevel_refused {members : List (String × Json)} {e : SchemaError}
    (h : schemaBase (.obj members) position.base = .error e) :
    lowerLevel env lower (.obj members) position = refuse e := by
  rw [lowerLevel, h]
  rfl

/-- A level mirrors another if what is done with the schemas that an object hands on does. -/
theorem lowerLevel_mirrors {M : Mirror}
    (h : ∀ members base rule, schema = .obj members → schemaBase (.obj members) position.base = .ok base →
      env.Reads members rule →
      rule.PartsMirror env env.documents members { position with base } base M lower lower') :
    Mirrors M (Node.renumber M.number) (lowerLevel env lower schema position)
      (lowerLevel env lower' schema position) := by
  cases schema with
  | bool allowed => cases allowed <;> exact .pure rfl
  | obj members =>
    cases hbase : schemaBase (.obj members) position.base with
    | error e =>
      rw [lowerLevel_refused hbase, lowerLevel_refused hbase]
      exact .refuse e
    | ok base =>
      rw [lowerLevel_obj hbase, lowerLevel_obj hbase]
      exact lowerObject_mirrors fun rule => h members base rule rfl hbase
  | _ => exact .refuse _

end

/-! ## Keys without a procedure -/

/-- The procedures have different keys, all from a list, and not more than `left` of these have none. -/
structure KeysWithin (keys : List String) (left : Nat) (procedures : List Procedure) : Prop where
  nodup : (procedureKeys procedures).Nodup
  subset : procedureKeys procedures ⊆ keys
  enough : keys.length ≤ procedures.length + left

namespace KeysWithin

variable {keys : List String} {left : Nat} {procedures : List Procedure}

theorem nil (keys : List String) : KeysWithin keys keys.length [] :=
  ⟨List.nodup_nil, List.nil_subset _, Nat.le_add_left _ _⟩

theorem mono {left' : Nat} (h : KeysWithin keys left procedures) (hle : left ≤ left') :
    KeysWithin keys left' procedures :=
  ⟨h.nodup, h.subset, h.enough.trans (Nat.add_le_add_left hle _)⟩

theorem filled (h : KeysWithin keys left procedures) (i : Nat) (body : Node) :
    KeysWithin keys left (procedures.modify i (·.fill body)) := by
  obtain ⟨hnodup, hsubset, henough⟩ := h
  unfold procedureKeys at hnodup hsubset
  rw [← map_target_fill procedures i body] at hnodup hsubset
  exact ⟨hnodup, hsubset, by rwa [List.length_modify]⟩

/-- A procedure for a new key takes one away. -/
theorem opened {target : Target} (descents : Nat) (h : KeysWithin keys left procedures)
    (hnew : ∀ q ∈ procedures, q.target.key ≠ target.key) (hkey : target.key ∈ keys) :
    ∃ left', left = left' + 1 ∧ KeysWithin keys left' (procedures ++ [⟨target, descents, none⟩]) := by
  have hkeys : procedureKeys (procedures ++ [⟨target, descents, none⟩]) =
      procedureKeys procedures ++ [target.key] := by simp [procedureKeys]
  have hnodup : (procedureKeys procedures ++ [target.key]).Nodup := by
    refine h.nodup.append (List.nodup_singleton _) (List.disjoint_singleton.mpr fun hmem => ?_)
    obtain ⟨_, hmem, hsame⟩ := List.mem_map.mp hmem
    obtain ⟨q, hq, rfl⟩ := List.mem_map.mp hmem
    exact hnew q hq hsame
  have hsubset : procedureKeys procedures ++ [target.key] ⊆ keys :=
    List.append_subset.mpr ⟨h.subset, List.cons_subset.mpr ⟨hkey, List.nil_subset _⟩⟩
  have hlength := (hnodup.subperm hsubset).length_le
  have henough := h.enough
  simp only [procedureKeys, List.length_append, List.length_map, List.length_singleton] at hlength
  obtain ⟨left', rfl⟩ : ∃ left', left = left' + 1 := Nat.exists_eq_succ_of_ne_zero (by omega)
  refine ⟨left', rfl, hkeys ▸ hnodup, hkeys ▸ hsubset, ?_⟩
  rw [List.length_append, List.length_singleton]
  omega

end KeysWithin

/-- The mirror in which everything looks as it is, and few keys have no procedure. -/
def Mirror.within (keys : List String) (left : Nat) : Mirror :=
  ⟨fun procedures procedures' => procedures' = procedures ∧ KeysWithin keys left procedures, Eq, fun _ => rfl, id⟩

/-- The procedure of a reference is found in both ways, or a key is taken away and its target is lowered in
    both. -/
theorem KeywordPlace.procedureOf_watched {lower lower' : Lower} {p : KeywordPlace} {reference : String}
    {keys : List String} {left : Nat}
    (h : ∀ target, p.env.documents.resolve p.position.base reference = .ok target → target.key ∈ keys ∧
      ∀ left', left = left' + 1 → Mirrors (.within keys left') (Node.renumber id)
        (lower target.schema (.ofTarget target p.position.descents))
        (lower' target.schema (.ofTarget target p.position.descents))) :
    Mirrors (.within keys left) id (p.procedureOf lower reference) (p.procedureOf lower' reference) := by
  rintro _ procedures ⟨rfl, hwithin⟩
  rw [procedureOf_eq, procedureOf_eq]
  cases htarget : p.env.documents.resolve p.position.base reference with
  | error e => exact .refused rfl
  | ok target =>
    dsimp only
    cases hfound : procedures.findIdx? (·.target.key = target.key) with
    | some i =>
      dsimp only
      split
      · exact .refused rfl
      · exact .done rfl ⟨rfl, hwithin⟩
    | none =>
      dsimp only
      obtain ⟨hkey, hlower⟩ := h target htarget
      have hnew : ∀ q ∈ procedures, q.target.key ≠ target.key := by
        simpa using List.findIdx?_eq_none_iff.mp hfound
      obtain ⟨left', rfl, hopened⟩ := KeysWithin.opened p.position.descents hwithin hnew hkey
      have hmade := hlower left' rfl _ _ ⟨rfl, hopened⟩
      revert hmade
      generalize lower target.schema _ _ = made
      generalize lower' target.schema _ _ = made'
      rintro (he | ⟨rfl, rfl, hafter⟩)
      · exact .refused he
      · rw [show Node.renumber id _ = _ from Node.renumber_id _]
        exact .done rfl ⟨rfl, (hafter.filled _ _).mono (Nat.le_succ _)⟩

/-! ## Schemas inside a schema -/

/-- What a keyword applies stands in a member of the object, unless it is the `null` of an absent keyword. -/
theorem KeywordPlace.Applies.inside {rule : Rule} {k : BuiltinKeyword} {env : Environment}
    {members : List (String × Json)} {position : Position} {data : Option DataRef} {s : Json}
    (h : (rule.place env members position data).Applies k s) :
    s = .null ∨ ∃ m ∈ members, s.Inside m.2 := by
  have hfound : ∀ {name : String} {v : Json}, members.lookup name = some v → s.Inside v →
      s = .null ∨ ∃ m ∈ members, s.Inside m.2 :=
    fun hlookup hs => .inr ⟨_, mem_of_lookup hlookup, hs⟩
  have hvalue : ∀ {v : Json}, (rule.place env members position data).schema = v → s.Inside v →
      s = .null ∨ ∃ m ∈ members, s.Inside m.2 := by
    rintro v rfl hs
    change s.Inside ((members.lookup rule.keyword).getD .null) at hs
    cases hlookup : members.lookup rule.keyword with
    | none =>
      rw [hlookup, Option.getD_none] at hs
      cases hs
      exact .inl rfl
    | some v =>
      rw [hlookup, Option.getD_some] at hs
      exact hfound hlookup hs
  cases k with
  | items =>
    rcases h with ⟨h, -⟩ | ⟨ss, h, hmem⟩ | h
    · exact hvalue h (.here s)
    · exact hvalue h (.element hmem (.here s))
    · exact hfound h (.here s)
  | contains | propertyNames | not => exact hvalue h (.here s)
  | dependencies =>
    obtain ⟨ms, h, m, hm, rfl⟩ := h
    exact hvalue h (.member hm (.here m.2))
  | properties =>
    rcases h with ⟨keyword, -, ms, h, m, hm, rfl⟩ | h
    · exact hfound h (.member hm (.here m.2))
    · exact hfound h (.here s)
  | anyOf | oneOf | allOf =>
    obtain ⟨ss, h, hmem⟩ := h
    exact hvalue h (.element hmem (.here s))
  | ifThenElse =>
    rcases h with ⟨h, -⟩ | h | h
    · exact hvalue h (.here s)
    · exact hfound h (.here s)
    · exact hfound h (.here s)
  | _ => exact h.elim

/-- A rule that is read stands for some member of the object. -/
theorem Environment.Reads.ne_nil {env : Environment} {members : List (String × Json)} {rule : Rule}
    (h : env.Reads members rule) : members ≠ [] := by
  rintro rfl
  obtain ⟨group, -, hrule⟩ := h
  have hpresent := (List.mem_filter.mp hrule).2
  simp [Rule.isPresent] at hpresent

/-- What an object applies is smaller than the object. -/
theorem KeywordPlace.Applies.size_lt {rule : Rule} {k : BuiltinKeyword} {env : Environment}
    {members : List (String × Json)} {position : Position} {data : Option DataRef} {s : Json}
    (hreads : env.Reads members rule) (h : (rule.place env members position data).Applies k s) :
    s.size < (Json.obj members).size := by
  rw [Json.size]
  refine Nat.lt_succ_of_le ?_
  obtain rfl | ⟨m, hm, hs⟩ := h.inside
  · obtain ⟨m, rest, rfl⟩ := List.exists_cons_of_ne_nil hreads.ne_nil
    exact m.2.size_pos.trans_le (Json.size_le_sizeMembers List.mem_cons_self)
  · exact hs.size_le.trans (Json.size_le_sizeMembers hm)

/-! ## The watch is never needed -/

section

variable {env : Environment} {root : Json}

/-- **With room for every key that has no procedure yet, lowering under watch mirrors lowering.** -/
theorem lowerSchema_mirrors_watched (hmacros : env.registry.WithoutMacros) (alarm : SchemaError) :
    ∀ (budget budget' left : Nat) (s : Json) (position : Position), env.documents.Shows root s →
      s.size + left * (env.documents.valueCount root + 1) ≤ budget → budget ≤ budget' →
      Mirrors (.within (env.documents.reachableKeys root) left) (Node.renumber id)
        (lowerSchema env budget s position) (lowerWatched env alarm budget' s position) := by
  intro budget
  induction budget with
  | zero =>
    intro budget' left s position _ hroom _
    have hsize := s.size_pos
    omega
  | succ budget ih =>
    intro budget' left s position hshows hroom hle
    obtain ⟨budget', rfl⟩ : ∃ b, budget' = b + 1 := Nat.exists_eq_succ_of_ne_zero (by omega)
    have hless := Nat.le_of_succ_le_succ hle
    rintro _ procedures ⟨rfl, hwithin⟩
    rw [lowerSchema_succ, lowerWatched_of_nodup hwithin.nodup]
    refine lowerLevel_mirrors (fun members base rule hs hbase hreads => ?_) _ _ ⟨rfl, hwithin⟩
    subst hs
    refine ⟨fun k data s _ happlies => ?_, fun data hrule => ?_, fun d expand hrule hd => ?_⟩
    · rintro ⟨schemaPath, dataPath, dataLevel, _, descents⟩ rfl
      refine ih _ _ _ _ ?_ ?_ hless
      · obtain rfl | ⟨m, hm, hs⟩ := happlies.inside
        · exact .inl rfl
        · exact hshows.inside Json.noConfusion (.member hm hs)
      · have hsmaller := happlies.size_lt hreads
        omega
    · refine KeywordPlace.procedureOf_watched fun target htarget => ⟨?_, ?_⟩
      · exact Documents.key_mem_targetKeys (Documents.reference_mem_texts hshows rule) htarget
      · rintro left' rfl
        have htarget : env.documents.Shows root target.schema := Documents.resolve_shows htarget
        refine ih _ _ _ _ htarget ?_ hless
        -- the key that is taken away has room for the whole target
        have hsize := htarget.size_le
        rw [Nat.succ_mul] at hroom
        omega
    · cases (hmacros.expand_eq_none hreads hrule).symm.trans hd

/-- **Lowering the root ends as it does under watch**: it neither comes to the end of its budget nor opens two
    procedures for one key. -/
theorem lowerWatched_eq (hmacros : env.registry.WithoutMacros) (alarm : SchemaError) (extra : Nat)
    (position : Position) :
    lowerWatched env alarm (loweringBudget root env.documents + extra) root position [] =
      lowerSchema env (loweringBudget root env.documents) root position [] := by
  have hshows := env.documents.shows_self root
  have hroom : root.size + (env.documents.reachableKeys root).length * (env.documents.valueCount root + 1) ≤
      loweringBudget root env.documents :=
    (Nat.add_le_add_right hshows.size_le _).trans (Nat.le_of_lt (Documents.length_reachableKeys_lt _ _))
  have hmirrored := lowerSchema_mirrors_watched hmacros alarm _ _ _ root position hshows hroom
    (Nat.le_add_right _ extra) [] [] ⟨rfl, .nil _⟩
  revert hmirrored
  generalize lowerSchema env _ root position [] = made
  generalize lowerWatched env alarm _ root position [] = made'
  rintro (rfl | ⟨rfl, rfl, -⟩)
  · rfl
  · rw [show Node.renumber id _ = _ from Node.renumber_id _]

/-! ## What does not end -/

/-- A function that some keyword brings along does not end: the check of its values or its code. -/
def Registry.HasEndlessCheck (r : Registry) : Prop :=
  ∃ group ∈ r.groups, ∃ rule ∈ group.rules,
    (∃ v value, rule.metaValidator = some v ∧ v.validate value = .endless) ∨
      ∃ d code view, rule.implementation = .custom d ∧ d.code = some code ∧ code view = .error .tooDeep

/-- If the error says that a schema is too deep, then such a function says it. -/
def Environment.Explains (env : Environment) (e : SchemaError) : Prop :=
  e = .tooDeep → env.registry.HasEndlessCheck

theorem Environment.explains_of_ne {e : SchemaError} (h : e ≠ .tooDeep) : env.Explains e :=
  fun hdeep => absurd hdeep h

theorem Environment.explains_of_isOwn (e : SchemaError) (h : e.IsOwn) : env.Explains e :=
  explains_of_ne h.ne_tooDeep

/-- A level adds no error that is not explained. -/
theorem lowerLevel_refuses {lower : Lower}
    (h : ∀ s position, Refuses (fun _ => True) env.Explains (lower s position)) (s : Json)
    (position : Position) : Refuses (fun _ => True) env.Explains (lowerLevel env lower s position) := by
  have hown := env.explains_of_isOwn
  cases s with
  | bool allowed => cases allowed <;> exact .pure
  | obj members =>
    refine .bind (.lifted hown (schemaBase_saysOwn _ _)) fun base => ?_
    refine lowerObject_refuses hown (fun rule path value e hreads he => ?_) (fun rule k data _ _ => ?_)
      fun rule d data hreads hrule => ?_
    · obtain ⟨group, hgroup, hmem⟩ := hreads
      rcases Rule.checkValue_error he with he | ⟨-, v, hv, hendless⟩
      · exact hown e he
      · exact fun _ => ⟨group, hgroup, rule, List.mem_of_mem_filter hmem, .inl ⟨v, value, hv, hendless⟩⟩
    · refine KeywordPlace.builtin_refuses hown (fun s at' _ _ => h s at') k (fun s relative _ => h s _)
        fun _ => KeywordPlace.procedureOf_refuses hown (fun _ _ _ _ _ _ _ => nofun) ?_
      rintro procedures target - - _ rfl
      exact ⟨fun _ _ _ => trivial, fun e he => (h _ _ _ trivial).2 e he⟩
    · obtain ⟨group, hgroup, hmem⟩ := hreads
      refine KeywordPlace.custom_refuses (fun code e hcode he => ?_) (fun _ _ _ _ => nofun) fun expand _ => h _ _
      rintro rfl
      exact ⟨group, hgroup, rule, List.mem_of_mem_filter hmem, .inr ⟨d, code, _, hrule, hcode, he⟩⟩
  | _ => exact .refuse (hown _ (.invalidSchemaType _))

/-- Under watch, nothing else is too deep. -/
theorem lowerWatched_refuses {alarm : SchemaError} (halarm : alarm ≠ .tooDeep) : ∀ budget s position,
    Refuses (fun _ => True) env.Explains (lowerWatched env alarm budget s position) := by
  intro budget
  induction budget with
  | zero => exact fun _ _ => .refuse (Environment.explains_of_ne halarm)
  | succ budget ih =>
    intro s position procedures _
    refine ⟨fun _ _ _ => trivial, fun e he => ?_⟩
    rw [lowerWatched] at he
    rcases ite_eq_iff.mp he with ⟨-, he⟩ | ⟨-, he⟩
    · exact (lowerLevel_refuses ih s position procedures trivial).2 e he
    · obtain rfl := Except.error.inj he
      exact Environment.explains_of_ne halarm

/-- **A root is too deep only if a function that a keyword brings along does not end.** -/
theorem lowerSchema_tooDeep (hmacros : env.registry.WithoutMacros) {position : Position}
    (h : lowerSchema env (loweringBudget root env.documents) root position [] = .error .tooDeep) :
    env.registry.HasEndlessCheck := by
  rw [← lowerWatched_eq hmacros (.invalidSchemaType "") 0] at h
  exact (lowerWatched_refuses (by nofun) _ _ _ _ trivial).2 _ h rfl

end

end JsonSchema
