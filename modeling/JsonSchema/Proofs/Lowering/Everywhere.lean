import JsonSchema.Proofs.Draft7.Semantics
import JsonSchema.Proofs.Evaluation.Provenance
import JsonSchema.Proofs.Lowering.Schemas

/-!
# What holds of every node of a schema

`Node.Each M` says that `M` holds of a node and of everything inside it, so of all that a run comes to
(`Program.Visits.each`).  To have it of what a schema is lowered to, one says what `M` makes of the nodes
that a keyword adds of its own (`KeywordPlace.Marks`) and where the bodies inside them come from
(`KeywordPlace.AppliesAt`, with the path that is written down for each).

**The pass over the keywords is done here once** (`KeywordPlace.Makes.each`), for whatever is to be known
of the sites and of the checks of a program.
-/

set_option autoImplicit false

namespace JsonSchema

/-! ## Every node inside a node -/

namespace Node

/-- The site at which a node reports violations of its own. -/
def site? : Node → Option ErrorSite
  | reject site | type _ site | noProperties _ site | propertyNames _ site | contains _ site
  | anyOf _ site | oneOf _ site | not _ site | ifThenElse _ _ _ site => some site
  | check c => some c.site
  | pass | all _ | guard _ _ | call _ | descend _ _ | items _ _ | properties _ _ | ifPresent _ _ => none

/-- A violation has the keyword and the path of the site. -/
theorem Reports.site {n : Node} {l subject : Location} {e : Violation} (h : n.Reports l subject e) :
    ∃ site, n.site? = some site ∧ e.keyword = site.keyword ∧ e.schemaPath = site.schemaPath := by
  cases h <;> exact ⟨_, rfl, rfl, rfl⟩

/-- The node neither reports anything itself nor calls a procedure. -/
def Silent (n : Node) : Prop := n.site? = none ∧ ∀ i, n ≠ .call i

/-- `M` holds of the node and of all nodes inside it. -/
inductive Each (M : Node → Prop) : Node → Prop where
  | mk {n : Node} : M n → (∀ entered m, (entered, m) ∈ n.parts → Each M m) → Each M n

namespace Each

variable {M : Node → Prop} {n m body : Node} {nodes : List Node}

theorem holds (h : n.Each M) : M n := by
  cases h with
  | mk hn _ => exact hn

theorem part (h : n.Each M) {entered : Bool} (hm : (entered, m) ∈ n.parts) : m.Each M := by
  cases h with
  | mk _ hparts => exact hparts entered m hm

theorem leaf (hn : M n) (hparts : n.parts = []) : n.Each M :=
  .mk hn fun _ _ hm => absurd (hparts ▸ hm) List.not_mem_nil

theorem around (hn : M n) {entered : Bool} (hparts : n.parts = [(entered, body)]) (hbody : body.Each M) :
    n.Each M := by
  refine .mk hn fun _ _ hm => ?_
  rw [hparts] at hm
  cases List.mem_singleton.mp hm
  exact hbody

theorem branches (hn : M n) (hparts : n.parts = nodes.map (false, ·)) (hnodes : ∀ m ∈ nodes, m.Each M) :
    n.Each M := by
  refine .mk hn fun _ _ hm => ?_
  rw [hparts] at hm
  obtain ⟨_, hmem, heq⟩ := List.mem_map.mp hm
  cases heq
  exact hnodes _ hmem

theorem conj (hsilent : ∀ {n : Node}, n.Silent → M n) (hnodes : ∀ m ∈ nodes, m.Each M) :
    (Node.conj nodes).Each M :=
  conj_cases (.leaf (hsilent ⟨rfl, fun _ => Node.noConfusion⟩) rfl)
    (fun _ h => .branches (hsilent ⟨rfl, fun _ => Node.noConfusion⟩) rfl h) hnodes

end Each

end Node

/-- What holds of every node of a program holds of all that a run comes to. -/
theorem Program.Visits.each {p : Program} {data : Json} {M : Node → Prop} (hroot : p.root.Each M)
    (hcalls : ∀ {i body}, M (.call i) → p.procedures[i]? = some body → body.Each M) {n : Node}
    {l : Location} (h : p.Visits data n l) : n.Each M := by
  induction h with
  | root => exact hroot
  | part _ hruns ih =>
    obtain ⟨entered, hm⟩ := hruns.mem_parts
    exact ih.part hm
  | call _ hbody ih => exact hcalls ih.holds hbody

/-! ## What a keyword adds -/

/-- The tests that the keywords of draft-07 make. -/
inductive BuiltinTest : (Json → Json → Bool) → Prop where
  | limit (c : Comparison) : BuiltinTest c.failsOn
  | multipleOf : BuiltinTest fun data divisor => !isMultipleOf data divisor
  | maximumSize (m : Measure) : BuiltinTest m.exceeds
  | minimumSize (m : Measure) : BuiltinTest m.fallsShortOf
  | pattern (r : Regex) : BuiltinTest fun data _ => data.str?.any (!r.isMatch ·)
  | givenPattern : BuiltinTest fun data pattern =>
      match data.str?, pattern.str?.bind Regex.parse? with
      | some s, some r => !r.isMatch s
      | _, _ => false
  | format (f : Format) : BuiltinTest fun data _ => !f.accepts data
  | uniqueItems : BuiltinTest fun data unique => unique.bool?.getD false && (lastDuplicate? data).isSome
  | constant : BuiltinTest fun data allowed => !data.equal allowed
  | enumeration : BuiltinTest fun data allowed => !(allowed.arr?.getD []).any (data.equal ·)
  | missing (name : String) : BuiltinTest fun data _ => KeywordPlace.lacks name data
  | overlong (count : Nat) : BuiltinTest fun data _ => data.arr?.any (count < ·.length)

/-- If the node is a check, it makes one of draft-07's tests. -/
def Node.TestsAsBuiltin (n : Node) : Prop := ∀ c, n = .check c → BuiltinTest c.fails

theorem Node.testsAsBuiltin_of_ne_check {n : Node} (h : ∀ c, n ≠ .check c) : n.TestsAsBuiltin :=
  fun c hc => absurd hc (h c)

/-- The node is no check against a value that is taken from the data. -/
def Node.Settled (n : Node) : Prop := ∀ c r, n = .check c → c.value ≠ .data r

namespace KeywordPlace

variable (p : KeywordPlace)

theorem siblingPath_eq (keyword : String) :
    p.siblingPath keyword = p.position.schemaPath ++ "/" ++ keyword := rfl

/-- The keyword stands in the schema: this one, or one beside it that it takes care of. -/
def Has (k : BuiltinKeyword) (keyword : String) : Prop :=
  keyword = p.keyword ∧ (k.implements = [] ∨ p.schema ≠ .null) ∨
    keyword ∈ k.implements ∧ (p.sibling? keyword).isSome

/-- What `M` makes of the nodes that a keyword adds around the bodies of its subschemas. -/
structure Marks (k : BuiltinKeyword) (M : Node → Prop) : Prop where
  silent : ∀ {n : Node}, n.Silent → M n
  call : k = .ref → ∀ i, M (.call i)
  check : k.implements = [] → ∀ text fails, BuiltinTest fails → M (p.check text fails)
  sited : ∀ {n : Node} {site : ErrorSite}, n.site? = some site → n.Settled → n.TestsAsBuiltin →
    site.schemaPath = p.siblingPath site.keyword → p.Has k site.keyword → M n

/-- `p.AppliesAt k relative s`: the keyword lowers `s` at the path that continues with `relative`. -/
inductive AppliesAt : BuiltinKeyword → String → Json → Prop where
  | value {k : BuiltinKeyword} : k ∈ [.items, .contains, .propertyNames, .not, .ifThenElse] →
      AppliesAt k k.name p.schema
  | item {ss : List Json} {i : Nat} {s : Json} : p.schema = .arr ss → ss[i]? = some s →
      AppliesAt .items s!"items/{i}" s
  | branch {k : BuiltinKeyword} {ss : List Json} {i : Nat} {s : Json} : k ∈ [.anyOf, .oneOf, .allOf] →
      p.schema = .arr ss → ss[i]? = some s → AppliesAt k s!"{p.keyword}/{i}" s
  | sibling {k : BuiltinKeyword} {keyword : String} {s : Json} : keyword ∈ k.implements →
      keyword ∈ schemaKeywords → p.sibling? keyword = some s → AppliesAt k keyword s
  | dependency {ms : List (String × Json)} {m : String × Json} : p.schema = .obj ms → m ∈ ms →
      AppliesAt .dependencies ("dependencies/" ++ escapeToken m.1) m.2
  | property {ms : List (String × Json)} {m : String × Json} :
      p.sibling? "properties" = some (.obj ms) → m ∈ ms →
      AppliesAt .properties ("properties/" ++ escapeToken m.1) m.2
  | pattern {ms : List (String × Json)} {m : String × Json} :
      p.sibling? "patternProperties" = some (.obj ms) → m ∈ ms →
      AppliesAt .properties ("patternProperties/" ++ escapeToken m.1) m.2

variable {p} {k : BuiltinKeyword} {M : Node → Prop} {B : BodyRel} {nodes : List Node}

theorem dataCheck_tests (site : ErrorSite) {fails : Json → Bool} (h : BuiltinTest fun data _ => fails data) :
    (dataCheck site fails).TestsAsBuiltin := by
  intro c hc
  cases hc
  exact h

theorem dataCheck_settled (site : ErrorSite) (fails : Json → Bool) : (dataCheck site fails).Settled := by
  intro c r h
  cases h
  exact SchemaValue.noConfusion

/-- Members beside the keyword are those of an object there. -/
theorem sibling?_of_mem {keyword : String} {m : String × Json} (h : m ∈ p.siblingMembers keyword) :
    ∃ ms, p.sibling? keyword = some (.obj ms) ∧ m ∈ ms := by
  unfold siblingMembers at h
  cases hv : p.sibling? keyword with
  | none => simp [hv] at h
  | some v =>
    cases v with
    | obj ms => exact ⟨ms, rfl, by simpa [hv, Json.obj?] using h⟩
    | _ => simp [hv, Json.obj?] at h

section

variable (hM : p.Marks k M)
  (hB : ∀ relative s (at' : Position) n, p.AppliesAt k relative s → at'.schemaPath = p.siblingPath relative →
    B s at' n → n.Each M)

include hM

/-- A node without a site of its own, around a body. -/
theorem Marks.around {n body : Node} (hn : n.Silent) {entered : Bool} (hparts : n.parts = [(entered, body)])
    (hbody : body.Each M) : n.Each M := .around (hM.silent hn) hparts hbody

/-- Checks for members that the data lacks, at one of the keyword's sites. -/
theorem Marks.dataChecks {names : List String} {site : String → ErrorSite}
    (hpath : ∀ name, (site name).schemaPath = p.siblingPath (site name).keyword)
    (hhas : ∀ name, p.Has k (site name).keyword) :
    ∀ n ∈ names.map fun name => dataCheck (site name) (lacks name), n.Each M := by
  intro n hn
  obtain ⟨name, -, rfl⟩ := List.mem_map.mp hn
  have htests := dataCheck_tests (site name) (.missing name)
  exact .leaf (hM.sited rfl (dataCheck_settled _ _) htests (hpath name) (hhas name)) rfl

include hB

/-! ## Arrays -/

theorem tupleParts_each (hk : k = .items) {tuple : List Json} (hschema : p.schema = .arr tuple) :
    ∀ part ∈ p.tupleParts B 0 tuple, ∀ body, part.Made body → (part.around body).Each M := by
  subst hk
  intro part hpart body hbody
  obtain ⟨⟨s, i⟩, hs, rfl⟩ := List.mem_map.mp hpart
  have hi : tuple[i]? = some s := List.mk_mem_zipIdx_iff_getElem?.mp hs
  exact hM.around ⟨rfl, fun _ => Node.noConfusion⟩ rfl (hB _ s _ body (.item hschema hi) rfl hbody)

theorem additionalItemsParts_each (hk : k = .items) (start : Nat) :
    ∀ part ∈ p.additionalItemsParts B start, ∀ body, part.Made body → (part.around body).Each M := by
  subst hk
  unfold additionalItemsParts
  split
  · next members hmembers =>
    refine List.forall_mem_singleton.mpr fun body hbody => ?_
    exact hM.around ⟨rfl, fun _ => Node.noConfusion⟩ rfl
      (hB _ _ _ body (.sibling (by decide) (by decide) hmembers) rfl hbody)
  · exact fun _ h => absurd h List.not_mem_nil

theorem MakesItems.each (hk : k = .items) (h : p.MakesItems B nodes) : ∀ n ∈ nodes, n.Each M := by
  obtain ⟨-, h⟩ := h
  split at h
  · simp [h]
  · next tuple htuple =>
    obtain ⟨others, hothers, rfl⟩ := h
    refine List.forall_mem_append.mpr ⟨?_, hothers.forall_mem (List.forall_mem_append.mpr
      ⟨tupleParts_each hM hB hk htuple, additionalItemsParts_each hM hB hk tuple.length⟩)⟩
    split
    · next hfalse =>
      have hhas : p.Has k "additionalItems" := by
        obtain ⟨a, ha, -⟩ := (Option.any_eq_true _ _).mp hfalse
        exact .inr ⟨hk ▸ by decide, by rw [ha, Option.isSome_some]⟩
      refine List.forall_mem_singleton.mpr (.leaf ?_ rfl)
      exact hM.sited rfl (dataCheck_settled _ _) (dataCheck_tests _ (.overlong tuple.length)) rfl hhas
    · exact fun _ h => absurd h List.not_mem_nil
  · subst hk
    refine h.forall_mem (List.forall_mem_singleton.mpr fun body hbody => ?_)
    exact hM.around ⟨rfl, fun _ => Node.noConfusion⟩ rfl (hB _ _ _ body (.value (by decide)) rfl hbody)

/-! ## Objects -/

theorem MakesDependencies.each (hk : k = .dependencies) (h : p.MakesDependencies B nodes) :
    ∀ n ∈ nodes, n.Each M := by
  subst hk
  refine Assembled.forall_mem h fun part hpart body hbody => ?_
  obtain ⟨⟨property, needs⟩, hm, rfl⟩ := List.mem_map.mp hpart
  have hmember : ∃ ms, p.schema = .obj ms ∧ (property, needs) ∈ ms := by
    cases hv : p.schema with
    | obj ms => exact ⟨ms, rfl, by simpa [hv, Json.obj?] using hm⟩
    | _ => simp [hv, Json.obj?] at hm
  obtain ⟨ms, hms, hmem⟩ := hmember
  refine hM.around ⟨rfl, fun _ => Node.noConfusion⟩ rfl ?_
  cases needs with
  | arr names =>
    obtain ⟨checks, hchecks, rfl⟩ := hbody
    obtain ⟨needed, text, -, rfl⟩ := neededProperties_cases hchecks
    exact .conj hM.silent (hM.dataChecks (fun _ => rfl) fun _ => .inl ⟨rfl, .inl rfl⟩)
  | _ => exact hB _ _ _ body (.dependency hms hmem) rfl hbody

theorem MakesOthers.each (hk : k = .properties) {patterns : List Regex}
    (h : p.MakesOthers B patterns nodes) : ∀ n ∈ nodes, n.Each M := by
  subst hk
  unfold MakesOthers at h
  split at h
  · simp [h]
  · simp [h]
  · next hfalse =>
    obtain ⟨text, rfl⟩ := h
    have hhas : p.Has .properties "additionalProperties" :=
      .inr ⟨by decide, by rw [hfalse, Option.isSome_some]⟩
    refine List.forall_mem_singleton.mpr (.leaf ?_ rfl)
    exact hM.sited rfl (fun _ _ h => nomatch h) (Node.testsAsBuiltin_of_ne_check fun _ h => nomatch h) rfl hhas
  · next schema _ hschema =>
    refine h.forall_mem (List.forall_mem_singleton.mpr fun body hbody => ?_)
    exact hM.around ⟨rfl, fun _ => Node.noConfusion⟩ rfl
      (hB _ _ _ body (.sibling (by decide) (by decide) hschema) rfl hbody)

theorem MakesProperties.each (hk : k = .properties) (h : p.MakesProperties B nodes) :
    ∀ n ∈ nodes, n.Each M := by
  obtain ⟨-, patterns, named, matched, others, -, hnamed, hmatched, hothers, rfl⟩ := h
  have hmembers : ∀ n ∈ named, n.Each M := hnamed.forall_mem fun part hpart body hbody => by
    subst hk
    obtain ⟨m, hm, rfl⟩ := List.mem_map.mp hpart
    obtain ⟨ms, hms, hmem⟩ := sibling?_of_mem hm
    exact hM.around ⟨rfl, fun _ => Node.noConfusion⟩ rfl (hB _ _ _ body (.property hms hmem) rfl hbody)
  have hpatterns : ∀ n ∈ matched, n.Each M := hmatched.forall_mem fun part hpart body hbody => by
    subst hk
    obtain ⟨⟨m, r⟩, hm, rfl⟩ := List.mem_map.mp hpart
    obtain ⟨ms, hms, hmem⟩ := sibling?_of_mem (List.of_mem_zip hm).1
    exact hM.around ⟨rfl, fun _ => Node.noConfusion⟩ rfl (hB _ _ _ body (.pattern hms hmem) rfl hbody)
  exact List.forall_mem_append.mpr
    ⟨List.forall_mem_append.mpr ⟨hmembers, hpatterns⟩, MakesOthers.each hM hB hk hothers⟩

/-! ## Combinations of schemas -/

omit hM in
theorem MakesBranches.each (hk : k ∈ [.anyOf, .oneOf, .allOf]) (h : p.MakesBranches B nodes) :
    ∀ n ∈ nodes, n.Each M := by
  obtain ⟨hne, h⟩ := h
  intro n hn
  obtain ⟨⟨s, i⟩, hs, hbody⟩ := exists_left_of_forall₂ h n hn
  cases hschema : p.schema with
  | arr ss =>
    rw [hschema] at hs
    have hi : ss[i]? = some s := List.mk_mem_zipIdx_iff_getElem?.mp hs
    exact hB _ _ _ n (.branch hk hschema hi) rfl hbody
  | _ => exact absurd (by rw [hschema]; rfl) hne

theorem MakesBranch.each {keyword : String} (hkeyword : keyword ∈ k.implements)
    (hname : keyword ∈ schemaKeywords) {n : Node} (h : p.MakesBranch B keyword n) : n.Each M := by
  unfold MakesBranch at h
  split at h
  · next s hs => exact hB _ _ _ n (.sibling hkeyword hname hs) rfl h
  · subst h
    exact .leaf (hM.silent ⟨rfl, fun _ => Node.noConfusion⟩) rfl

theorem MakesIfThenElse.each (hk : k = .ifThenElse) (h : p.MakesIfThenElse B nodes) :
    ∀ n ∈ nodes, n.Each M := by
  unfold MakesIfThenElse at h
  split at h
  · simp [h]
  · simp [h]
  · next hnull _ =>
    obtain ⟨c, t, e, text, hc, ht, he, rfl⟩ := h
    have hthen := MakesBranch.each hM hB (hk ▸ by decide) (by decide) ht
    have helse := MakesBranch.each hM hB (hk ▸ by decide) (by decide) he
    have hcondition : c.Each M := by
      subst hk
      exact hB _ _ _ c (.value (by decide)) rfl hc
    have hown : M (.ifThenElse c t e (p.site text)) :=
      hM.sited rfl (fun _ _ h => nomatch h) (Node.testsAsBuiltin_of_ne_check fun _ h => nomatch h) rfl
        (.inl ⟨rfl, .inr hnull⟩)
    refine List.forall_mem_singleton.mpr (.mk hown fun entered m hm => ?_)
    simp only [Node.parts, List.mem_cons, Prod.mk.injEq, List.not_mem_nil, or_false] at hm
    rcases hm with ⟨-, rfl⟩ | ⟨-, rfl⟩ | ⟨-, rfl⟩
    · exact hcondition
    · exact hthen
    · exact helse

/-! ## Every keyword -/

/-- **What holds of a keyword's own nodes and of the bodies of its subschemas holds everywhere in what it
    adds.** -/
theorem Makes.each {R : String → Nat → Prop} (h : p.Makes B R k nodes) : ∀ n ∈ nodes, n.Each M := by
  have hcheck : k.implements = [] → ∀ text fails, BuiltinTest fails → (p.check text fails).Each M :=
    fun hk text fails htest => .leaf (hM.check hk text fails htest) rfl
  have hown : ∀ {n : Node} {text : ErrorText}, k.implements = [] → n.site? = some (p.site text) →
      (∀ c, n ≠ .check c) → M n := fun hk hsite hn =>
    hM.sited hsite (fun c _ hc => absurd hc (hn c)) (Node.testsAsBuiltin_of_ne_check hn) rfl
      (.inl ⟨rfl, .inl hk⟩)
  cases k with
  | multipleOf =>
    obtain ⟨n, hn, rfl⟩ := h
    obtain ⟨-, text, rfl⟩ := multipleOf_cases hn
    exact List.forall_mem_singleton.mpr (hcheck rfl _ _ .multipleOf)
  | pattern =>
    obtain ⟨n, hn, rfl⟩ := h
    rcases pattern_cases hn with ⟨-, text, rfl⟩ | ⟨-, r, text, -, rfl⟩
    · exact List.forall_mem_singleton.mpr (hcheck rfl _ _ .givenPattern)
    · exact List.forall_mem_singleton.mpr (hcheck rfl _ _ (.pattern r))
  | format =>
    rcases format_cases h with ⟨found, text, -, rfl⟩ | ⟨-, rfl⟩
    · exact List.forall_mem_singleton.mpr (hcheck rfl _ _ (.format found))
    · exact fun _ hn => absurd hn List.not_mem_nil
  | required =>
    obtain ⟨names, text, -, rfl⟩ := required_cases h
    exact hM.dataChecks (fun _ => rfl) fun _ => .inl ⟨rfl, .inl rfl⟩
  | items => exact MakesItems.each hM hB rfl h
  | dependencies => exact MakesDependencies.each hM hB rfl h
  | properties => exact MakesProperties.each hM hB rfl h
  | allOf => exact MakesBranches.each hB (by decide) h
  | ifThenElse => exact MakesIfThenElse.each hM hB rfl h
  | propertyNames =>
    obtain ⟨text, h⟩ := h
    refine h.forall_mem (List.forall_mem_singleton.mpr fun body hbody => ?_)
    exact .around (hown rfl rfl fun _ => Node.noConfusion) rfl (hB _ _ _ body (.value (by decide)) rfl hbody)
  | contains =>
    obtain ⟨body, text, hbody, rfl⟩ := h
    refine List.forall_mem_singleton.mpr ?_
    exact .around (hown rfl rfl fun _ => Node.noConfusion) rfl (hB _ _ _ body (.value (by decide)) rfl hbody)
  | not =>
    obtain ⟨body, text, hbody, rfl⟩ := h
    refine List.forall_mem_singleton.mpr ?_
    exact .around (hown rfl rfl fun _ => Node.noConfusion) rfl (hB _ _ _ body (.value (by decide)) rfl hbody)
  | anyOf =>
    obtain ⟨branches, text, hbranches, rfl⟩ := h
    refine List.forall_mem_singleton.mpr ?_
    exact .branches (hown rfl rfl fun _ => Node.noConfusion) rfl (MakesBranches.each hB (by decide) hbranches)
  | oneOf =>
    obtain ⟨branches, text, hbranches, rfl⟩ := h
    refine List.forall_mem_singleton.mpr ?_
    exact .branches (hown rfl rfl fun _ => Node.noConfusion) rfl (MakesBranches.each hB (by decide) hbranches)
  | ref =>
    obtain ⟨i, -, rfl⟩ := h
    exact List.forall_mem_singleton.mpr (.leaf (hM.call rfl i) rfl)
  -- the keywords that add one check, whatever stands beside them
  | maximum | minimum | exclusiveMaximum | exclusiveMinimum =>
    obtain rfl := h
    exact List.forall_mem_singleton.mpr (hcheck rfl _ _ (.limit _))
  | maxLength | maxItems | maxProperties =>
    obtain rfl := h
    exact List.forall_mem_singleton.mpr (hcheck rfl _ _ (.maximumSize _))
  | minLength | minItems | minProperties =>
    obtain rfl := h
    exact List.forall_mem_singleton.mpr (hcheck rfl _ _ (.minimumSize _))
  | uniqueItems =>
    obtain rfl := h
    exact List.forall_mem_singleton.mpr (hcheck rfl _ _ .uniqueItems)
  | const =>
    obtain rfl := h
    exact List.forall_mem_singleton.mpr (hcheck rfl _ _ .constant)
  | enum =>
    obtain rfl := h
    exact List.forall_mem_singleton.mpr (hcheck rfl _ _ .enumeration)

end

end KeywordPlace

/-! ## Schemas -/

section

variable {B : BodyRel} {R : RefRel} {env : Environment} {members : List (String × Json)}
  {position : Position} {M : Node → Prop} {n : Node}

/-- A type is declared by the keyword. -/
theorem isSome_of_declaredTypes {path : String} {types : List DataType}
    (h : declaredTypes path members = .ok (some types)) : (members.lookup "type").isSome := by
  unfold declaredTypes at h
  split at h
  · cases h
  · next value hvalue => rw [hvalue, Option.isSome_some]

/-- What holds everywhere in what the rules add holds everywhere in what the object is lowered to. -/
theorem ObjectMakes.each (hsilent : ∀ {n : Node}, n.Silent → M n)
    (htype : (members.lookup "type").isSome → ∀ types, M (typeNode position.schemaPath members types))
    (hrules : ∀ rule node, env.Reads members rule → rule.Makes B R env members position node →
      node.Each M)
    (h : ObjectMakes B R env members position n) : n.Each M := by
  obtain ⟨declared, nodes, hdeclared, hgroups, rfl⟩ := h
  refine .conj hsilent (List.forall_mem_append.mpr ⟨fun m hm => ?_, fun m hm => ?_⟩)
  · obtain ⟨types, htypes, rfl⟩ := Option.map_eq_some_iff.mp (Option.mem_toList.mp hm)
    split at hdeclared
    · rw [hdeclared] at htypes
      cases htypes
    · rw [htypes] at hdeclared
      exact .leaf (htype (isSome_of_declaredTypes hdeclared.2) types) rfl
  · obtain ⟨group, hgroup, parts, hparts, rfl⟩ := exists_left_of_forall₂ hgroups m hm
    have hbody : (Node.conj parts).Each M := by
      refine .conj hsilent fun node hnode => ?_
      obtain ⟨rule, hrule, hmakes⟩ := exists_left_of_forall₂ hparts node hnode
      exact hrules rule node ⟨group, List.mem_of_mem_filter hgroup, hrule⟩ hmakes
    unfold RuleGroup.around
    split
    · split
      · exact .leaf (hsilent ⟨rfl, fun _ => Node.noConfusion⟩) rfl
      · exact .around (hsilent ⟨rfl, fun _ => Node.noConfusion⟩) rfl hbody
    · exact hbody

end

end JsonSchema
