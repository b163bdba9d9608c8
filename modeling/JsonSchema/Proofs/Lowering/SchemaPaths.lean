import JsonSchema.Proofs.Evaluation.DataPaths
import JsonSchema.Proofs.Lowering.Everywhere
import JsonSchema.Proofs.Lowering.Labels

/-!
# Where in the schema a violation points

Each keyword writes down by hand where its subschemas stand and where its violations are reported.
`Json.SubschemaAt` says where a subschema does stand, as tokens to follow, and `ErrorSite.LocatedIn` that a
site is where its keyword is.  Every site of a compiled program without references is
(`compileSchema_located`), so that **following the path of a violation leads to the value of the keyword
that failed, in the schema that has the keyword, or to a literal `false`** (`schemaPath_leads_to_keyword`).
-/

set_option autoImplicit false

namespace JsonSchema

/-! ## Subschemas and the tokens that lead to them -/

/-- The values that stand where schemas directly inside a schema do, with the tokens that lead to them. -/
inductive Json.SubschemaAt (members : List (String × Json)) : List String → Json → Prop where
  | single {keyword : String} {s : Json} : keyword ∈ schemaKeywords →
      members.lookup keyword = some s → SubschemaAt members [keyword] s
  | listed {keyword : String} {ss : List Json} {i : Nat} {s : Json} : keyword ∈ schemaKeywords →
      members.lookup keyword = some (.arr ss) → ss[i]? = some s → SubschemaAt members [keyword, toString i] s
  | named {keyword : String} {ms : List (String × Json)} {m : String × Json} :
      keyword ∈ schemaMapKeywords → members.lookup keyword = some (.obj ms) → m ∈ ms →
      SubschemaAt members [keyword, m.1] m.2

/-- The schema itself and the schemas inside it, with the tokens that lead to them. -/
inductive Json.Subschema (schema : Json) : List String → Json → Prop where
  | self : Subschema schema [] schema
  | inside {front tokens : List String} {members : List (String × Json)} {s : Json} :
      Subschema schema front (.obj members) → Json.SubschemaAt members tokens s →
      Subschema schema (front ++ tokens) s

namespace Json

variable {schema s : Json} {members : List (String × Json)} {tokens : List String}

theorem SubschemaAt.hasSubschema (h : SubschemaAt members tokens s) : HasSubschema members s := by
  cases h with
  | single hk hl => exact .single hk hl
  | listed hk hl hi => exact .listed hk hl (List.mem_of_getElem? hi)
  | named hk hl hm => exact .named hk hl hm

theorem SubschemaAt.follow (hsound : (Json.obj members).Sound) (h : SubschemaAt members tokens s) :
    Pointer.follow? (.obj members) tokens = some s := by
  cases h with
  | single _ hl => rwa [Pointer.follow?_singleton]
  | @listed keyword ss i _ _ hl hi =>
    obtain ⟨hlt, -⟩ := List.getElem?_eq_some_iff.mp hi
    have hlength := (hsound.member (mem_of_lookup hl)).length_lt
    have hfirst : Pointer.follow? (.obj members) [keyword] = some (.arr ss) := by
      rwa [Pointer.follow?_singleton]
    rw [show [keyword, toString i] = [keyword] ++ [toString i] from rfl, Pointer.follow?_concat hfirst,
      Pointer.child?_toString (hlt.trans hlength), hi]
  | @named keyword ms m _ hl hm =>
    have hfirst : Pointer.follow? (.obj members) [keyword] = some (.obj ms) := by
      rwa [Pointer.follow?_singleton]
    rw [show [keyword, m.1] = [keyword] ++ [m.1] from rfl, Pointer.follow?_concat hfirst]
    exact lookup_of_mem (hsound.member (mem_of_lookup hl)).nodup hm

/-- **The tokens of a subschema lead to it.** -/
theorem Subschema.follow (hsound : schema.Sound) (h : Subschema schema tokens s) :
    Pointer.follow? schema tokens = some s := by
  induction h with
  | self => rfl
  | inside _ hat ih => rw [Pointer.follow?_append, ih, Option.bind_some, hat.follow (hsound.follow ih)]

theorem Subschema.refFree (hfree : RefFree schema) (h : Subschema schema tokens s) : RefFree s := by
  induction h with
  | self => exact hfree
  | inside _ hat ih =>
    cases ih with
    | obj _ hinside => exact hinside _ hat.hasSubschema
    | other hobj => cases hobj

end Json

/-! ## Sites -/

/-- The path of the site is that of its keyword in a subschema, or of a literal `false`. -/
def ErrorSite.LocatedIn (schema : Json) (site : ErrorSite) : Prop :=
  ∃ front s, Json.Subschema schema front s ∧
    ((∃ members v, s = .obj members ∧ members.lookup site.keyword = some v ∧
        site.schemaPath = "#" ++ Pointer.render (front ++ [site.keyword])) ∨
      (s = .bool false ∧ site.keyword = "false schema" ∧
        site.schemaPath = "#" ++ Pointer.render front))

/-- The node calls nothing, and its site is where the keyword is. -/
def Node.LocatedIn (schema : Json) (n : Node) : Prop :=
  (∀ i, n ≠ .call i) ∧ ∀ site, n.site? = some site → site.LocatedIn schema

/-- The registry has no rules but those of draft-07 for the schema and the schemas inside it. -/
def Registry.ReadsBuiltins (r : Registry) (schema : Json) : Prop :=
  ∀ tokens members, Json.Subschema schema tokens (.obj members) →
    ∀ group ∈ r.groups, ∀ rule ∈ group.rules, rule.isPresent members = true → ∃ k, rule = .ofBuiltin k

theorem Registry.BuiltinOnly.readsBuiltins {r : Registry} (h : r.BuiltinOnly) (schema : Json) :
    r.ReadsBuiltins schema := fun _ _ _ group hgroup rule hrule _ => h group hgroup rule hrule

/-! ## Paths of keywords -/

theorem BuiltinKeyword.escapeToken_name (k : BuiltinKeyword) : escapeToken k.name = k.name := by
  cases k <;> decide

theorem BuiltinKeyword.escapeToken_implements (k : BuiltinKeyword) :
    ∀ keyword ∈ k.implements, escapeToken keyword = keyword := by
  cases k <;> decide

section

variable {p : KeywordPlace} {front : List String}

/-- A path goes on with a keyword. -/
theorem KeywordPlace.siblingPath_render (hpath : p.position.schemaPath = "#" ++ Pointer.render front)
    {keyword : String} (hkeyword : escapeToken keyword = keyword) :
    p.siblingPath keyword = "#" ++ Pointer.render (front ++ [keyword]) := by
  rw [p.siblingPath_eq, hpath, Pointer.render_append, Pointer.render_singleton, hkeyword,
    String.append_assoc, String.append_assoc]

/-- A path goes on with a keyword and a token in its value. -/
theorem KeywordPlace.siblingPath_render_pair (hpath : p.position.schemaPath = "#" ++ Pointer.render front)
    {keyword : String} (hkeyword : escapeToken keyword = keyword) (token : String) :
    p.siblingPath (keyword ++ "/" ++ escapeToken token) =
      "#" ++ Pointer.render (front ++ [keyword, token]) := by
  have hpair : p.siblingPath (keyword ++ "/" ++ escapeToken token) =
      p.siblingPath keyword ++ Pointer.render [token] := by
    rw [p.siblingPath_eq, p.siblingPath_eq, Pointer.render_singleton]
    simp only [String.append_assoc]
  rw [hpair, p.siblingPath_render hpath hkeyword, String.append_assoc, ← Pointer.render_append,
    List.append_assoc]
  rfl

end

/-! ## Schemas that keywords apply -/

section

variable {env : Environment} {members : List (String × Json)} {position : Position}
  {data : Option DataRef} {k : BuiltinKeyword} {front : List String}

/-- A value other than `null` is that of a keyword that is there. -/
theorem Rule.lookup_of_place {v : Json} (hv : ((Rule.ofBuiltin k).place env members position data).schema = v)
    (hne : v ≠ .null) : members.lookup k.name = some v := by
  have hgetD : (members.lookup k.name).getD .null = v := hv
  cases hl : members.lookup k.name with
  | none =>
    rw [hl] at hgetD
    exact absurd hgetD.symm hne
  | some w =>
    rw [hl] at hgetD
    exact congrArg some hgetD

/-- **A schema that a keyword applies stands where its path says.** -/
theorem KeywordPlace.AppliesAt.subschemaAt {relative : String} {s : Json}
    (h : ((Rule.ofBuiltin k).place env members position data).AppliesAt k relative s)
    (hs : s.isSchema = true) (hpath : position.schemaPath = "#" ++ Pointer.render front) :
    ∃ tokens, Json.SubschemaAt members tokens s ∧
      ((Rule.ofBuiltin k).place env members position data).siblingPath relative =
        "#" ++ Pointer.render (front ++ tokens) := by
  have hvalue : ∀ {v}, ((Rule.ofBuiltin k).place env members position data).schema = v → v ≠ .null →
      members.lookup k.name = some v := Rule.lookup_of_place
  generalize hp : (Rule.ofBuiltin k).place env members position data = p at *
  have hposition : p.position.schemaPath = "#" ++ Pointer.render front := by rw [← hp]; exact hpath
  have hparent : p.parent = members := by rw [← hp]; rfl
  have hkeyword : p.keyword = k.name := by rw [← hp]; rfl
  cases h with
  | value hk =>
    have hl := hvalue rfl (by rintro hnull; rw [hnull] at hs; cases hs)
    have hname : k.name ∈ schemaKeywords := by revert hk; cases k <;> decide
    exact ⟨[k.name], .single hname hl, siblingPath_render hposition k.escapeToken_name⟩
  | @item ss i _ hss hi =>
    have hl := hvalue hss Json.noConfusion
    refine ⟨["items", toString i], .listed (by decide) hl hi, ?_⟩
    rw [← siblingPath_render_pair hposition (by decide), Pointer.escapeToken_toString]
    rfl
  | @branch _ ss i _ hk hss hi =>
    have hl := hvalue hss Json.noConfusion
    have hname : k.name ∈ schemaKeywords := by revert hk; cases k <;> decide
    refine ⟨[k.name, toString i], .listed hname hl hi, ?_⟩
    rw [← siblingPath_render_pair hposition k.escapeToken_name, Pointer.escapeToken_toString, hkeyword]
    rfl
  | sibling hk hname hs =>
    refine ⟨[relative], .single hname (hparent ▸ hs), ?_⟩
    exact siblingPath_render hposition (k.escapeToken_implements relative hk)
  | @dependency ms m hms hm =>
    have hl := hvalue hms Json.noConfusion
    refine ⟨["dependencies", m.1], .named (by decide) hl hm, ?_⟩
    rw [← siblingPath_render_pair hposition (by decide)]
    rfl
  | @property ms m hms hm =>
    refine ⟨["properties", m.1], .named (by decide) (hparent ▸ hms) hm, ?_⟩
    rw [← siblingPath_render_pair hposition (by decide)]
    rfl
  | @pattern ms m hms hm =>
    refine ⟨["patternProperties", m.1], .named (by decide) (hparent ▸ hms) hm, ?_⟩
    rw [← siblingPath_render_pair hposition (by decide)]
    rfl

variable {schema : Json}

/-- A keyword that a rule has in the schema, its own or one that it takes care of, is there. -/
theorem KeywordPlace.Has.isSome {keyword : String} (hpresent : (Rule.ofBuiltin k).isPresent members = true)
    (h : ((Rule.ofBuiltin k).place env members position data).Has k keyword) :
    (members.lookup keyword).isSome ∧ escapeToken keyword = keyword := by
  rcases h with ⟨rfl, hown⟩ | ⟨himplemented, hsome⟩
  · refine ⟨?_, k.escapeToken_name⟩
    rcases hown with halone | hnull
    · have hnames : (Rule.ofBuiltin k).keyword :: (Rule.ofBuiltin k).implements = [k.name] := by
        rw [show (Rule.ofBuiltin k).implements = k.implements from rfl, halone]
        rfl
      rw [Rule.isPresent, hnames] at hpresent
      simp only [List.any_cons, List.any_nil, Bool.or_false] at hpresent
      exact hpresent
    · show (members.lookup k.name).isSome
      rw [Rule.lookup_of_place rfl hnull, Option.isSome_some]
  · exact ⟨hsome, k.escapeToken_implements keyword himplemented⟩

/-- A site of a keyword that is in the schema is where the keyword is. -/
theorem ErrorSite.locatedIn_of_path (hat : Json.Subschema schema front (.obj members)) {site : ErrorSite}
    (hsome : (members.lookup site.keyword).isSome)
    (hpath : site.schemaPath = "#" ++ Pointer.render (front ++ [site.keyword])) :
    site.LocatedIn schema := by
  obtain ⟨v, hv⟩ := Option.isSome_iff_exists.mp hsome
  exact ⟨front, .obj members, hat, .inl ⟨members, v, rfl, hv, hpath⟩⟩

/-- The nodes that a keyword adds are located where it is. -/
theorem Rule.place_marks_locatedIn (hat : Json.Subschema schema front (.obj members))
    (href : members.lookup "$ref" = none) (hpresent : (Rule.ofBuiltin k).isPresent members = true)
    (hpath : position.schemaPath = "#" ++ Pointer.render front) :
    ((Rule.ofBuiltin k).place env members position data).Marks k (Node.LocatedIn schema) := by
  have hsite : ∀ {site : ErrorSite},
      site.schemaPath = ((Rule.ofBuiltin k).place env members position data).siblingPath site.keyword →
      ((Rule.ofBuiltin k).place env members position data).Has k site.keyword → site.LocatedIn schema := by
    intro site hsibling hhas
    obtain ⟨hsome, hescape⟩ := hhas.isSome hpresent
    refine ErrorSite.locatedIn_of_path hat hsome ?_
    rw [hsibling, KeywordPlace.siblingPath_render hpath hescape]
  refine ⟨fun h => ⟨h.2, fun site hs => ?_⟩, fun hk i => ?_, fun hk text fails _ => ?_, ?_⟩
  · rw [h.1] at hs
    cases hs
  -- a rule for references is present only beside `$ref`
  · subst hk
    obtain ⟨name, hname, hsome⟩ := List.any_eq_true.mp hpresent
    obtain rfl : name = "$ref" := List.mem_singleton.mp hname
    rw [href] at hsome
    cases hsome
  · refine ⟨fun _ => Node.noConfusion, fun site hs => ?_⟩
    cases hs
    exact hsite rfl (.inl ⟨rfl, .inl hk⟩)
  · intro n site hs _ _ hsibling hhas
    refine ⟨fun i hi => ?_, fun site' hs' => ?_⟩
    · rw [hi] at hs
      cases hs
    · obtain rfl := Option.some.inj (hs.symm.trans hs')
      exact hsite hsibling hhas

/-- What is known of the body of a subschema, from the path to it. -/
def locatedAt (schema : Json) : BodyRel := fun s at' n =>
  s.isSchema = true ∧ ∀ front, Json.Subschema schema front s →
    at'.schemaPath = "#" ++ Pointer.render front → n.Each (Node.LocatedIn schema)

theorem SchemaMakes.locatedAt {R : RefRel} {s : Json} {n : Node} (hfree : RefFree schema)
    (hbuiltin : env.registry.ReadsBuiltins schema)
    (h : SchemaMakes (locatedAt schema) R env s position n) : locatedAt schema s position n := by
  have hsilent : ∀ {n : Node}, n.Silent → n.LocatedIn schema := fun h =>
    ⟨h.2, fun site hs => by rw [h.1] at hs; cases hs⟩
  cases h with
  | always => exact ⟨rfl, fun _ _ _ => .leaf (hsilent ⟨rfl, fun _ => Node.noConfusion⟩) rfl⟩
  | never =>
    refine ⟨rfl, fun front hat hpath => .leaf ⟨fun _ => Node.noConfusion, fun site hs => ?_⟩ rfl⟩
    cases hs
    exact ⟨front, _, hat, .inr ⟨rfl, rfl, hpath⟩⟩
  | @object members _ base _ hbase hobject =>
    refine ⟨rfl, fun front hat hpath => ?_⟩
    have href : members.lookup "$ref" = none := by
      cases hat.refFree hfree with
      | obj href _ => exact href
      | other hobj => cases hobj
    refine hobject.each hsilent (fun htype types => ?_) ?_
    · refine ⟨fun _ => Node.noConfusion, fun site hs => ?_⟩
      cases hs
      refine ErrorSite.locatedIn_of_path hat htype ?_
      have hrender : Pointer.render ["type"] = "/type" := by decide
      show position.schemaPath ++ "/type" = "#" ++ Pointer.render (front ++ ["type"])
      rw [hpath, Pointer.render_append, hrender, String.append_assoc]
    · rintro rule _ ⟨group, hgroup, hread⟩ ⟨data, nodes, -, -, hnodes, rfl⟩
      obtain ⟨hrule, hpresent⟩ := List.mem_filter.mp hread
      have hpresent : rule.isPresent members = true := (Bool.and_eq_true_iff.mp hpresent).1
      obtain ⟨k, rfl⟩ := hbuiltin front members hat group hgroup rule hrule hpresent
      have hmarks : ((Rule.ofBuiltin k).place env members { position with base } data).Marks k
          (Node.LocatedIn schema) := Rule.place_marks_locatedIn hat href hpresent hpath
      refine .conj hsilent (KeywordPlace.Makes.each hmarks ?_ hnodes)
      rintro relative s at' n happlies hrelative ⟨hs, hbody⟩
      obtain ⟨tokens, hinside, htokens⟩ := happlies.subschemaAt hs hpath
      exact hbody (front ++ tokens) (.inside hat hinside) (hrelative.trans htokens)

end

/-! ## Compiled programs -/

/-- **The sites of a compiled program without references are where their keywords are.** -/
theorem compileSchema_located {s : Surroundings} {schema : Json} (hfree : RefFree schema)
    (hbuiltin : s.registry.ReadsBuiltins schema) {validator : Validator}
    (h : compileSchema s schema = .ok validator) :
    validator.program.root.Each (Node.LocatedIn schema) := by
  obtain ⟨⟨root, procedures⟩, hlowered, rfl⟩ := compileSchema_eq_ok.mp h
  have hinvariant : ∀ documents, LoweringInvariant (s.among documents) (fun _ => True)
      fun _ => locatedAt schema := fun documents =>
    { opened := fun _ _ => trivial
      filled := fun _ _ _ _ => trivial
      schema := fun h => h.locatedAt hfree hbuiltin }
  obtain ⟨-, base, -, hroot⟩ := lowerProgram_made hinvariant trivial hlowered
  exact hroot [] .self rfl

/-- **The path of a violation leads to the keyword that failed.**  Of a schema without references, which only
    the rules of draft-07 read, every violation in either mode has for its path `#` and a pointer that can be
    followed in the schema.  The last token is the keyword, and those in front lead to the schema that has
    it; or the keyword is `false schema`, and the pointer leads to a literal `false`. -/
theorem schemaPath_leads_to_keyword {s : Surroundings} {schema : Json} (hsound : schema.Sound)
    (hfree : RefFree schema) (hbuiltin : s.registry.ReadsBuiltins schema) {validator : Validator}
    (hcompiled : compileSchema s schema = .ok validator) {data : Json} {violations : List Violation}
    (h : validator.validate data = .invalid violations) {e : Violation} (he : e ∈ violations) :
    ∃ pointer tokens found, e.schemaPath = "#" ++ pointer ∧ Pointer.parse? pointer = some tokens ∧
      Pointer.follow? schema tokens = some found ∧
      ((∃ front members, tokens = front ++ [e.keyword] ∧ Json.Subschema schema front (.obj members) ∧
          Pointer.follow? schema front = some (.obj members) ∧ members.lookup e.keyword = some found) ∨
        (e.keyword = "false schema" ∧ Json.Subschema schema tokens found ∧ found = .bool false)) := by
  obtain ⟨n, l, subject, horigin⟩ := Validator.exists_origin h he
  have hlocated : n.LocatedIn schema := by
    have hroot := compileSchema_located hfree hbuiltin hcompiled
    -- no call is inside the program, so that no procedure is ever run
    exact (horigin.visited.each hroot fun hcall _ => absurd rfl (hcall.1 _)).holds
  obtain ⟨site, hsite, hkeyword, hpath⟩ := horigin.reported.site
  obtain ⟨front, s', hat, ⟨members, v, rfl, hv, hsitePath⟩ | ⟨rfl, hfalse, hsitePath⟩⟩ :=
    hlocated.2 site hsite
  · have hfront := hat.follow hsound
    have hfound : Pointer.follow? schema (front ++ [site.keyword]) = some v := by
      rw [Pointer.follow?_concat hfront]
      exact hv
    rw [hkeyword]
    exact ⟨_, front ++ [site.keyword], v, hpath.trans hsitePath, Pointer.parse?_render _, hfound,
      .inl ⟨front, members, rfl, hat, hfront, hv⟩⟩
  · exact ⟨_, front, .bool false, hpath.trans hsitePath, Pointer.parse?_render _, hat.follow hsound,
      .inr ⟨hkeyword.trans hfalse, hat, rfl⟩⟩

/-- An array without a first item. -/
def noFirstItem : Json := .obj [("items", .arr [.bool false])]

/-- The violation of a first item leads to the `false` in the list of items. -/
theorem noFirstItem_path : ∃ validator e pointer tokens found,
    noFirstItem.Sound ∧ RefFree noFirstItem ∧ Surroundings.plain.registry.ReadsBuiltins noFirstItem ∧
    compileSchema .plain noFirstItem = .ok validator ∧ validator.validate (.arr [.null]) = .invalid [e] ∧
    e.schemaPath = "#" ++ pointer ∧ Pointer.parse? pointer = some tokens ∧
    Pointer.follow? noFirstItem tokens = some found ∧
    ((∃ front members, tokens = front ++ [e.keyword] ∧ Json.Subschema noFirstItem front (.obj members) ∧
        Pointer.follow? noFirstItem front = some (.obj members) ∧ members.lookup e.keyword = some found) ∨
      (e.keyword = "false schema" ∧ Json.Subschema noFirstItem tokens found ∧ found = .bool false)) := by
  have hsound : noFirstItem.Sound := by
    refine .obj (by simp) (List.forall_mem_singleton.mpr (.arr (by decide) ?_))
    exact List.forall_mem_singleton.mpr (.leaf rfl rfl)
  have hfree : RefFree noFirstItem := by
    refine .of_members rfl (List.forall_mem_singleton.mpr fun _ => ⟨.other rfl, fun ss hss => ?_⟩)
      (List.forall_mem_singleton.mpr fun hmap => absurd hmap (by decide))
    cases hss
    exact List.forall_mem_singleton.mpr (.other rfl)
  have hbuiltin : Surroundings.plain.registry.ReadsBuiltins noFirstItem :=
    Registry.BuiltinOnly.readsBuiltins Registry.withBuiltins_builtinOnly noFirstItem
  have hone : ((compileSchema .plain noFirstItem).toOption.bind fun v =>
      (v.validate (.arr [.null])).count?) = some 1 := by decide +kernel
  obtain ⟨validator, violations, hcompiled, hinvalid, hlength⟩ := exists_invalid hone
  obtain ⟨e, rfl⟩ := List.length_eq_one_iff.mp hlength
  obtain ⟨pointer, tokens, found, hpath⟩ :=
    schemaPath_leads_to_keyword hsound hfree hbuiltin hcompiled hinvalid List.mem_cons_self
  exact ⟨validator, e, pointer, tokens, found, hsound, hfree, hbuiltin, hcompiled, hinvalid, hpath⟩

end JsonSchema
