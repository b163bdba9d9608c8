import JsonSchema.Proofs.Draft7.Assertions

/-!
# Keywords with subschemas mean what draft-07 says

Each of these keywords contributes bodies of its subschemas with nodes around them.  Given that a body
means its subschema (`satisfying`), the rules of `Node.Means` say what the nodes mean, and it remains to
read that as the clause of the semantics.

**Bodies that always pass have no node**, so a part has to mean the truth when its body does: this is
the second half of `Part.Means`.
-/

set_option autoImplicit false

namespace JsonSchema

/-- A body means its schema, if the schema refers to nothing. -/
def satisfying (formats : Formats) : BodyRel :=
  fun schema _ n => RefFree schema → n.Means (Satisfies formats schema)

/-! ## Parts -/

/-- The node of a part means `Ψ`, and a part that gets no node means the truth. -/
def Part.Means (part : Part) (Ψ : Json → Prop) : Prop :=
  ∀ body, part.Made body → (part.around body).Means Ψ ∧ (body.isPass = true → ∀ v, Ψ v)

section

variable {part : Part} {φ Ψ : Json → Prop} {nodes : List Node}

/-- A part whose body means `φ`. -/
theorem Part.means_of_body (hbody : ∀ body, part.Made body → body.Means φ)
    (haround : ∀ body, body.Means φ → (part.around body).Means Ψ) (htrue : (∀ v, φ v) → ∀ v, Ψ v) :
    part.Means Ψ := fun body hm =>
  ⟨haround body (hbody body hm), fun hpass => htrue (Node.of_isPass_means hpass (hbody body hm))⟩

theorem Part.Means.unlessPass (hp : part.Means Ψ) {body : Node} (hm : part.Made body) :
    AllMean (unlessPass body part.around) Ψ := by
  obtain ⟨hnode, htrue⟩ := hp body hm
  unfold JsonSchema.unlessPass
  split
  · next hpass => exact .nil (htrue hpass)
  · exact .single hnode

namespace Assembled

theorem split {xs ys : List Part} : ∀ {nodes}, Assembled (xs ++ ys) nodes →
    ∃ ms ns, nodes = ms ++ ns ∧ Assembled xs ms ∧ Assembled ys ns := by
  induction xs with
  | nil => exact fun {nodes} h => ⟨[], nodes, rfl, .nil, h⟩
  | cons x rest ih =>
    intro nodes h
    cases h with
    | @cons _ _ body _ hm hrest =>
      obtain ⟨ms, ns, rfl, hms, hns⟩ := ih hrest
      exact ⟨JsonSchema.unlessPass body x.around ++ ms, ns, by rw [List.append_assoc], .cons hm hms, hns⟩

theorem means_map {α : Type} {part : α → Part} {P : α → Json → Prop} {xs : List α}
    (hp : ∀ x ∈ xs, (part x).Means (P x)) : ∀ {nodes}, Assembled (xs.map part) nodes →
      AllMean nodes (fun v => ∀ x ∈ xs, P x v) := by
  induction xs with
  | nil =>
    intro nodes h
    cases h with
    | nil => exact .nil (by simp)
  | cons x rest ih =>
    intro nodes h
    obtain ⟨hx, hrest⟩ := List.forall_mem_cons.mp hp
    cases h with
    | cons hm h =>
      exact ((hx.unlessPass hm).append (ih hrest h)).congr fun _ => List.forall_mem_cons

theorem means_single (h : Assembled [part] nodes) (hp : part.Means Ψ) : AllMean nodes Ψ := by
  have hmap : Assembled ([()].map fun _ => part) nodes := h
  exact (means_map (P := fun _ => Ψ) (fun _ _ => hp) hmap).congr (by simp)

end Assembled

end

variable {formats : Formats} {members : List (String × Json)} {p : KeywordPlace} {nodes : List Node}
  {k : BuiltinKeyword} {R : String → Nat → Prop}

theorem Placed.sibling?_eq (hp : Placed formats members k p) (keyword : String) :
    p.sibling? keyword = members.lookup keyword := by
  rw [KeywordPlace.sibling?, hp.parent]

/-- The schema of a keyword that has one. -/
theorem Placed.exists_schema (hp : Placed formats members k p) (hk : k.implements = [])
    (hname : k.name ∈ schemaKeywords) :
    ∃ s, members.lookup k.name = some s ∧ p.schema = s ∧ RefFree s := by
  obtain ⟨s, hlookup, hs, -⟩ := hp.exists_value hk
  exact ⟨s, hlookup, hs, hp.refFree s (.single hname hlookup)⟩

/-- The schemas of a keyword that has a list of them. -/
theorem Placed.exists_schemas (hp : Placed formats members k p) (hk : k.implements = [])
    (hname : k.name ∈ schemaKeywords) (htypes : k.schemaTypes = [.array]) :
    ∃ ss, members.lookup k.name = some (.arr ss) ∧ p.schema = .arr ss ∧ ∀ s ∈ ss, RefFree s := by
  obtain ⟨w, hlookup, hw, htyped⟩ := hp.exists_value hk
  rw [htypes] at htyped
  obtain ⟨ss, rfl⟩ := exists_arr_of_anyAccepts htyped
  exact ⟨ss, hlookup, hw, fun s hs => hp.refFree s (.listed hname hlookup hs)⟩

/-! ## Arrays -/

theorem elementsPart_means {keyword : String} {start : Nat} {s : Json} (hs : RefFree s) :
    (p.elementsPart (satisfying formats) keyword start s).Means fun v =>
      ∀ vs, v = .arr vs → ∀ e ∈ vs.drop start, Satisfies formats s e :=
  Part.means_of_body (fun _ hb => hb hs) (fun _ hb => Node.items_means hb)
    fun htrue _ _ _ e _ => htrue e

theorem tupleParts_means {tuple : List Json} (hs : ∀ s ∈ tuple, RefFree s)
    (h : Assembled (p.tupleParts (satisfying formats) 0 tuple) nodes) :
    AllMean nodes fun v => ∀ vs, v = .arr vs → ∀ (i : Nat) (s e : Json), tuple[i]? = some s →
      vs[i]? = some e → Satisfies formats s e := by
  have hparts := Assembled.means_map (P := fun m v => ∀ w, (Step.index m.2).child? v = some w →
    Satisfies formats m.1 w) ?_ h
  · refine hparts.congr fun v => ⟨fun hall m hm w hw => ?_, fun hall vs hv i s e hi he => ?_⟩
    · have hi := List.mem_zipIdx_iff_getElem?.mp hm
      cases v with
      | arr vs => exact hall vs rfl m.2 m.1 w hi hw
      | _ => cases hw
    · subst hv
      exact hall (s, i) (List.mem_zipIdx_iff_getElem?.mpr hi) e he
  · rintro ⟨s, i⟩ hm
    have hfree := hs s (List.mem_of_getElem? (List.mem_zipIdx_iff_getElem?.mp hm))
    exact Part.means_of_body (fun _ hb => hb hfree) (fun _ hb => Node.descend_means hb)
      fun htrue _ w _ => htrue w

theorem tooLong_eq_false {count : Nat} {v : Json} :
    (v.arr?.any fun vs => count < vs.length) = false ↔ ∀ vs, v = .arr vs → vs.length ≤ count := by
  cases v <;> simp [Json.arr?]

/-- `additionalItems` beside a tuple: the one check for `false`, or the part for a schema. -/
theorem additionalItems_means {count : Nat} (hp : Placed formats members .items p)
    (hshape : ∀ a, p.sibling? "additionalItems" = some a → a.bool?.isSome ∨ a.obj?.isSome)
    (h : Assembled (p.additionalItemsParts (satisfying formats) count) nodes) :
    AllMean
      ((if (p.sibling? "additionalItems").any (·.bool? == some false) then [p.noAdditionalItems count]
        else []) ++ nodes)
      fun v => ∀ vs, v = .arr vs → ∀ s, members.lookup "additionalItems" = some s →
        ∀ e ∈ vs.drop count, Satisfies formats s e := by
  rw [hp.sibling?_eq] at hshape ⊢
  rw [KeywordPlace.additionalItemsParts, hp.sibling?_eq] at h
  cases hlookup : members.lookup "additionalItems" with
  | none =>
    rw [hlookup] at h
    cases h with
    | nil => exact .nil fun v vs _ s hs => nomatch hs
  | some a =>
    rw [hlookup] at h
    cases a with
    | bool allowed =>
      cases h with
      | nil =>
        cases allowed with
        | true => exact .nil fun v vs _ s hs e _ => Option.some.inj hs ▸ satisfies_bool.mpr rfl
        | false =>
          -- no element satisfies `false`, so that there must be none
          refine (AllMean.single (Node.check_means (w := .bool false) rfl)).congr fun v => ?_
          rw [tooLong_eq_false]
          refine forall_congr' fun vs => forall_congr' fun _ => ?_
          rw [← List.drop_eq_nil_iff, List.eq_nil_iff_forall_not_mem]
          simp
    | obj ms =>
      have hfree : RefFree (.obj ms) := hp.refFree _ (.single (by decide) hlookup)
      refine (h.means_single (elementsPart_means hfree)).congr fun v => ?_
      simp
    | _ => simp [Json.bool?, Json.obj?, hlookup] at hshape

theorem items_means (hp : Placed formats members .items p)
    (h : p.MakesItems (satisfying formats) nodes) : AllMean nodes (Fulfils formats members .items) := by
  obtain ⟨hshape, h⟩ := h
  cases hlookup : members.lookup "items" with
  | none =>
    have hschema : p.schema = .null := by rw [hp.schema]; simp [BuiltinKeyword.name, hlookup]
    rw [hschema] at h
    obtain rfl := h
    refine .nil fun v => ?_
    rw [Fulfils]
    simp [hlookup]
  | some w =>
    have hschema : p.schema = w := by rw [hp.schema]; simp [BuiltinKeyword.name, hlookup]
    have htyped := hp.typed w hlookup
    rw [hschema] at h
    cases w with
    | arr tuple =>
      obtain ⟨others, hothers, rfl⟩ := h
      obtain ⟨fixed, rest, rfl, hfixed, hrest⟩ := hothers.split
      -- the check for `false` comes first and the part for a schema last, around the tuple's own parts
      have hfree : ∀ s ∈ tuple, RefFree s := fun s hs =>
        hp.refFree s (.listed (by decide) hlookup hs)
      refine ((tupleParts_means hfree hfixed).insert (additionalItems_means hp hshape hrest)).congr ?_
      intro v
      rw [Fulfils, hlookup, ← forall_and]
      refine forall_congr' fun vs => ?_
      rw [← imp_and]
      refine imp_congr_right fun _ => ?_
      simp [Json.arr?, and_comm]
    | bool _ | obj _ =>
      have hfree := hp.refFree _ (.single (by decide) hlookup)
      refine (Assembled.means_single h (elementsPart_means hfree)).congr fun v => ?_
      rw [Fulfils, hlookup]
      simp [Json.arr?]
    | _ => cases htyped

theorem contains_means (hp : Placed formats members .contains p)
    (h : p.MakesContains (satisfying formats) nodes) :
    AllMean nodes (Fulfils formats members .contains) := by
  obtain ⟨s, hlookup, hs, hfree⟩ := hp.exists_schema rfl (by decide)
  have hlookup : members.lookup "contains" = some s := hlookup
  obtain ⟨body, text, hbody, rfl⟩ := h
  rw [hs] at hbody
  refine (AllMean.single (Node.contains_means (hbody hfree))).congr fun v => ?_
  rw [Fulfils, hlookup]
  exact ⟨fun h vs hv => h s vs rfl hv, fun h _ vs hs hv => Option.some.inj hs ▸ h vs hv⟩

/-! ## Objects -/

theorem nameSchema_means (hp : Placed formats members .propertyNames p)
    (h : p.MakesNameSchema (satisfying formats) nodes) :
    AllMean nodes (Fulfils formats members .propertyNames) := by
  obtain ⟨s, hlookup, hs, hfree⟩ := hp.exists_schema rfl (by decide)
  have hlookup : members.lookup "propertyNames" = some s := hlookup
  obtain ⟨text, h⟩ := h
  rw [hs] at h
  have hpart : Part.Means
      ⟨satisfying formats s (p.onNames "propertyNames"), (.propertyNames · (p.site text))⟩
      fun v => ∀ ms, v = .obj ms → ∀ m ∈ ms, Satisfies formats s (.str m.1) :=
    Part.means_of_body (fun _ hb => hb hfree) (fun _ hb => Node.propertyNames_means hb)
      fun htrue _ _ _ m _ => htrue (.str m.1)
  refine (h.means_single hpart).congr fun v => ?_
  rw [Fulfils, hlookup]
  exact ⟨fun h ms hv => h s ms rfl hv, fun h _ ms hs hv => Option.some.inj hs ▸ h ms hv⟩

/-- What a dependency asks for: names, or a schema that the whole object satisfies. -/
def MeetsNeed (formats : Formats) (need v : Json) : Prop :=
  (∀ names, need = .arr names → ∀ ms, v = .obj ms → ∀ name, .str name ∈ names →
    (ms.lookup name).isSome) ∧
  (need.arr? = none → Satisfies formats need v)

theorem dependencyPart_means {need : String × Json} (hfree : RefFree need.2) :
    (p.dependencyPart (satisfying formats) need).Means fun v =>
      (v.get? need.1).isSome → MeetsNeed formats need.2 v := by
  refine Part.means_of_body (φ := MeetsNeed formats need.2) ?_ (fun _ hb => Node.ifPresent_means hb)
    fun htrue v _ => htrue v
  intro body hbody
  obtain ⟨name, needs⟩ := need
  cases needs with
  | arr names =>
    obtain ⟨checks, hchecks, rfl⟩ := hbody
    obtain ⟨needed, text, hneeded, rfl⟩ := KeywordPlace.neededProperties_cases hchecks
    refine lacks_means.conj.congr fun v => ?_
    rw [MeetsNeed]
    rw [eq_map_str_of_propertyNames hneeded]
    simp [Json.arr?]
  | _ =>
    have hbody : body.Means (Satisfies formats _) := hbody hfree
    refine hbody.congr fun v => ?_
    simp [MeetsNeed, Json.arr?]

theorem dependencies_means (hp : Placed formats members .dependencies p)
    (h : p.MakesDependencies (satisfying formats) nodes) :
    AllMean nodes (Fulfils formats members .dependencies) := by
  obtain ⟨w, hlookup, hw, htyped⟩ := hp.exists_value rfl
  obtain ⟨needs, rfl⟩ := exists_obj_of_anyAccepts htyped
  have hlookup : members.lookup "dependencies" = some (.obj needs) := hlookup
  rw [KeywordPlace.MakesDependencies, hw] at h
  have hparts := Assembled.means_map (fun need hneed =>
    dependencyPart_means (p := p) (hp.refFree _ (.named (by decide) hlookup hneed))) h
  refine hparts.congr fun v => ?_
  rw [Fulfils, hlookup]
  constructor
  · intro h need hneed hpresent
    cases v with
    | obj ms =>
      obtain ⟨hnames, hschema⟩ := h needs ms rfl rfl need hneed hpresent
      refine ⟨fun names hn ms' hv => ?_, hschema⟩
      cases hv
      exact hnames names hn
    | _ => cases hpresent
  · rintro h _ ms ⟨⟩ rfl need hneed hpresent
    obtain ⟨hnames, hschema⟩ := h need hneed hpresent
    exact ⟨fun names hn => hnames names hn ms rfl, hschema⟩

/-! ### Members by their names -/

theorem siblingMembers_eq (hp : Placed formats members k p) (keyword : String) :
    p.siblingMembers keyword = ((members.lookup keyword).bind Json.obj?).getD [] := by
  rw [KeywordPlace.siblingMembers, hp.sibling?_eq]

theorem mem_siblingMembers (hp : Placed formats members k p) {keyword : String} {m : String × Json} :
    m ∈ p.siblingMembers keyword ↔ ∃ ms, members.lookup keyword = some (.obj ms) ∧ m ∈ ms := by
  rw [siblingMembers_eq hp]
  cases members.lookup keyword with
  | none => simp
  | some w => cases w <;> simp [Json.obj?]

theorem namedProperties_means (hp : Placed formats members .properties p)
    (h : Assembled ((p.siblingMembers "properties").map (p.namedPart (satisfying formats))) nodes) :
    AllMean nodes fun v => ∀ ms, v = .obj ms → ∀ schemas,
      members.lookup "properties" = some (.obj schemas) → ∀ s ∈ schemas, ∀ w,
        ms.lookup s.1 = some w → Satisfies formats s.2 w := by
  have hpart : ∀ m ∈ p.siblingMembers "properties", (p.namedPart (satisfying formats) m).Means
      fun v => ∀ w, (Step.key m.1).child? v = some w → Satisfies formats m.2 w := by
    intro m hm
    obtain ⟨ms, hlookup, hm⟩ := (mem_siblingMembers hp).mp hm
    have hfree := hp.refFree _ (.named (by decide) hlookup hm)
    exact Part.means_of_body (fun _ hb => hb hfree) (fun _ hb => Node.descend_means hb)
      fun htrue _ w _ => htrue w
  refine (Assembled.means_map hpart h).congr fun v => ⟨fun hall m hm w hw => ?_, ?_⟩
  · obtain ⟨schemas, hlookup, hm⟩ := (mem_siblingMembers hp).mp hm
    cases v with
    | obj ms => exact hall ms rfl schemas hlookup m hm w hw
    | _ => cases hw
  · rintro hall ms rfl schemas hlookup s hs w hw
    exact hall s ((mem_siblingMembers hp).mpr ⟨schemas, hlookup, hs⟩) w hw

section

variable {α β : Type} {f : α → Option β} {xs : List α} {ys : List β}

/-- Pairs of a list with what its entries lead to. -/
theorem mem_zip_of_forall₂ (h : List.Forall₂ (fun x y => f x = some y) xs ys) {x : α} {y : β} :
    (x, y) ∈ xs.zip ys ↔ x ∈ xs ∧ f x = some y := by
  induction h with
  | nil => simp
  | @cons x' y' xs ys hy _ ih =>
    rw [List.zip_cons_cons, List.mem_cons, ih, List.mem_cons, Prod.mk.injEq]
    constructor
    · rintro (⟨rfl, rfl⟩ | ⟨hx, hy⟩)
      · exact ⟨Or.inl rfl, hy⟩
      · exact ⟨Or.inr hx, hy⟩
    · rintro ⟨rfl | hx, hxy⟩
      · exact Or.inl ⟨rfl, Option.some.inj (hxy.symm.trans hy)⟩
      · exact Or.inr ⟨hx, hxy⟩

theorem mem_right_of_forall₂ (h : List.Forall₂ (fun x y => f x = some y) xs ys) {y : β} :
    y ∈ ys ↔ ∃ x ∈ xs, f x = some y := by
  induction h with
  | nil => simp
  | cons hy _ ih => simp [ih, hy, eq_comm]

end

theorem patternProperties_means (hp : Placed formats members .properties p) {patterns : List Regex}
    (hpatterns : List.Forall₂ (fun m r => Regex.parse? m.1 = some r)
      (p.siblingMembers "patternProperties") patterns)
    (h : Assembled (((p.siblingMembers "patternProperties").zip patterns).map
      (p.patternPart (satisfying formats))) nodes) :
    AllMean nodes fun v => ∀ ms, v = .obj ms → ∀ schemas,
      members.lookup "patternProperties" = some (.obj schemas) → ∀ s ∈ schemas, ∀ r,
        Regex.parse? s.1 = some r → ∀ m ∈ ms, r.isMatch m.1 = true → Satisfies formats s.2 m.2 := by
  have hpart : ∀ m ∈ (p.siblingMembers "patternProperties").zip patterns,
      (p.patternPart (satisfying formats) m).Means fun v => ∀ ms, v = .obj ms → ∀ member ∈ ms,
        m.2.isMatch member.1 = true → Satisfies formats m.1.2 member.2 := by
    intro m hm
    obtain ⟨ms, hlookup, hm⟩ := (mem_siblingMembers hp).mp (List.of_mem_zip hm).1
    have hfree := hp.refFree _ (.named (by decide) hlookup hm)
    exact Part.means_of_body (fun _ hb => hb hfree) (fun _ hb => Node.properties_means hb)
      fun htrue _ _ _ member _ _ => htrue member.2
  refine (Assembled.means_map hpart h).congr fun v => ⟨fun hall m hm ms hv member hmem hmatch => ?_, ?_⟩
  · obtain ⟨hs, hr⟩ := (mem_zip_of_forall₂ hpatterns).mp hm
    obtain ⟨schemas, hlookup, hs⟩ := (mem_siblingMembers hp).mp hs
    exact hall ms hv schemas hlookup m.1 hs m.2 hr member hmem hmatch
  · intro hall ms hv schemas hlookup s hs r hr member hmem hmatch
    have hs := (mem_siblingMembers hp).mpr ⟨schemas, hlookup, hs⟩
    exact hall (s, r) ((mem_zip_of_forall₂ hpatterns).mpr ⟨hs, hr⟩) ms hv member hmem hmatch

/-- The other members are those that `properties` and `patternProperties` do not cover. -/
theorem otherMembers_selects (hp : Placed formats members k p) {patterns : List Regex}
    (hpatterns : List.Forall₂ (fun m r => Regex.parse? m.1 = some r)
      (p.siblingMembers "patternProperties") patterns) (name : String) :
    (p.otherMembers patterns).selects name = true ↔ ¬ IsCovered members name := by
  have hknown : name ∈ (p.siblingMembers "properties").map Prod.fst ↔
      ∃ ms, members.lookup "properties" = some (.obj ms) ∧ name ∈ ms.map Prod.fst := by
    simp only [List.mem_map, mem_siblingMembers hp]
    constructor
    · rintro ⟨m, ⟨ms, hlookup, hm⟩, hname⟩
      exact ⟨ms, hlookup, m, hm, hname⟩
    · rintro ⟨ms, hlookup, m, hm, hname⟩
      exact ⟨m, ⟨ms, hlookup, hm⟩, hname⟩
  have hmatched : (∃ r ∈ patterns, r.isMatch name = true) ↔
      ∃ ms, members.lookup "patternProperties" = some (.obj ms) ∧
        ∃ m ∈ ms, ∃ r, Regex.parse? m.1 = some r ∧ r.isMatch name = true := by
    constructor
    · rintro ⟨r, hmem, hmatch⟩
      obtain ⟨m, hm, hr⟩ := (mem_right_of_forall₂ hpatterns).mp hmem
      obtain ⟨ms, hlookup, hm⟩ := (mem_siblingMembers hp).mp hm
      exact ⟨ms, hlookup, m, hm, r, hr, hmatch⟩
    · rintro ⟨ms, hlookup, m, hm, r, hr, hmatch⟩
      have hm := (mem_siblingMembers hp).mpr ⟨ms, hlookup, hm⟩
      exact ⟨r, (mem_right_of_forall₂ hpatterns).mpr ⟨m, hm, hr⟩, hmatch⟩
  rw [IsCovered, ← hknown, ← hmatched]
  simp [KeywordPlace.otherMembers, PropertyFilter.selects]

theorem additionalProperties_means (hp : Placed formats members .properties p)
    {patterns : List Regex}
    (hpatterns : List.Forall₂ (fun m r => Regex.parse? m.1 = some r)
      (p.siblingMembers "patternProperties") patterns)
    (h : p.MakesOthers (satisfying formats) patterns nodes) :
    AllMean nodes fun v => ∀ ms, v = .obj ms → ∀ s, members.lookup "additionalProperties" = some s →
      ∀ m ∈ ms, ¬ IsCovered members m.1 → Satisfies formats s m.2 := by
  rw [KeywordPlace.MakesOthers, hp.sibling?_eq] at h
  have hothers := otherMembers_selects hp hpatterns
  cases hlookup : members.lookup "additionalProperties" with
  | none =>
    rw [hlookup] at h
    obtain rfl := h
    exact .nil fun v ms _ s hs => nomatch hs
  | some s =>
    rw [hlookup] at h
    have hfree := hp.refFree _ (.single (by decide) hlookup)
    have hpart : Part.Means
        ⟨satisfying formats s (p.below "additionalProperties" "/\x7bkey\x7d"),
          .properties (p.otherMembers patterns)⟩
        fun v => ∀ ms, v = .obj ms → ∀ m ∈ ms, (p.otherMembers patterns).selects m.1 = true →
          Satisfies formats s m.2 :=
      Part.means_of_body (fun _ hb => hb hfree) (fun _ hb => Node.properties_means hb)
        fun htrue _ _ _ m _ _ => htrue m.2
    cases s with
    | bool allowed =>
      cases allowed with
      | true =>
        obtain rfl := h
        exact .nil fun v ms _ s hs m _ _ => Option.some.inj hs ▸ satisfies_bool.mpr rfl
      | false =>
        obtain ⟨text, rfl⟩ := h
        refine (AllMean.single (Node.noProperties_means _ _)).congr fun v => ?_
        simp [hothers]
    | _ =>
      refine (Assembled.means_single h hpart).congr fun v => ?_
      simp [hothers]

theorem properties_means (hp : Placed formats members .properties p)
    (h : p.MakesProperties (satisfying formats) nodes) :
    AllMean nodes (Fulfils formats members .properties) := by
  obtain ⟨-, patterns, named, matched, others, hpatterns, hnamed, hmatched, hothers, rfl⟩ := h
  have hall := ((namedProperties_means hp hnamed).append
    (patternProperties_means hp hpatterns hmatched)).append
    (additionalProperties_means hp hpatterns hothers)
  refine hall.congr fun v => ?_
  rw [Fulfils]
  simp only [and_assoc, forall_and]

/-! ## Combinations of schemas -/

theorem not_means (hp : Placed formats members .not p)
    (h : p.Makes (satisfying formats) R .not nodes) : AllMean nodes (Fulfils formats members .not) := by
  obtain ⟨s, hlookup, hs, hfree⟩ := hp.exists_schema rfl (by decide)
  have hlookup : members.lookup "not" = some s := hlookup
  obtain ⟨body, text, hbody, rfl⟩ := h
  rw [hs] at hbody
  refine (AllMean.single (Node.not_means (hbody hfree))).congr fun v => ?_
  rw [Fulfils, hlookup]
  simp

/-- Branches mean the schemas of the list, one each. -/
theorem branches_mean {ss : List Json} (hs : p.schema = .arr ss) (hfree : ∀ s ∈ ss, RefFree s)
    (h : p.MakesBranches (satisfying formats) nodes) :
    List.Forall₂ (fun s n => n.Means (Satisfies formats s)) ss nodes := by
  obtain ⟨-, h⟩ := h
  rw [hs] at h
  have hfst : ∀ m ∈ ss.zipIdx, RefFree m.1 := fun m hm =>
    hfree m.1 (List.mem_of_getElem? (List.mem_zipIdx_iff_getElem?.mp hm))
  have hmeans : List.Forall₂ (fun m n => n.Means (Satisfies formats m.1)) ss.zipIdx nodes :=
    ((List.forall₂_and_left _ _).mpr ⟨hfst, h⟩).imp fun m n ⟨hm, hb⟩ => hb hm
  rw [← List.zipIdx_map_fst 0 ss]
  exact List.forall₂_map_left_iff.mpr hmeans

theorem anyOf_means (hp : Placed formats members .anyOf p)
    (h : p.Makes (satisfying formats) R .anyOf nodes) :
    AllMean nodes (Fulfils formats members .anyOf) := by
  obtain ⟨ss, hlookup, hs, hfree⟩ := hp.exists_schemas rfl (by decide) rfl
  have hlookup : members.lookup "anyOf" = some (.arr ss) := hlookup
  obtain ⟨branches, text, hbranches, rfl⟩ := h
  refine (AllMean.single (Node.anyOf_means (branches_mean hs hfree hbranches))).congr fun v => ?_
  rw [Fulfils, hlookup]
  simp

theorem oneOf_means (hp : Placed formats members .oneOf p)
    (h : p.Makes (satisfying formats) R .oneOf nodes) :
    AllMean nodes (Fulfils formats members .oneOf) := by
  obtain ⟨ss, hlookup, hs, hfree⟩ := hp.exists_schemas rfl (by decide) rfl
  have hlookup : members.lookup "oneOf" = some (.arr ss) := hlookup
  obtain ⟨branches, text, hbranches, rfl⟩ := h
  refine (AllMean.single (Node.oneOf_means (branches_mean hs hfree hbranches))).congr fun v => ?_
  rw [Fulfils, hlookup]
  exact ⟨fun h => h ss rfl, fun h _ heq => Json.arr.inj (Option.some.inj heq) ▸ h⟩

theorem allOf_means (hp : Placed formats members .allOf p)
    (h : p.MakesBranches (satisfying formats) nodes) :
    AllMean nodes (Fulfils formats members .allOf) := by
  obtain ⟨ss, hlookup, hs, hfree⟩ := hp.exists_schemas rfl (by decide) rfl
  have hlookup : members.lookup "allOf" = some (.arr ss) := hlookup
  refine (AllMean.of_forall₂ (branches_mean hs hfree h)).congr fun v => ?_
  rw [Fulfils, hlookup]
  simp

/-- A branch that is missing asks for nothing. -/
theorem branch_means (hp : Placed formats members k p) {keyword : String} {n : Node}
    (hname : keyword ∈ schemaKeywords) (h : p.MakesBranch (satisfying formats) keyword n) :
    n.Means fun v => ∀ s, members.lookup keyword = some s → Satisfies formats s v := by
  rw [KeywordPlace.MakesBranch, hp.sibling?_eq] at h
  cases hlookup : members.lookup keyword with
  | none =>
    rw [hlookup] at h
    obtain rfl := h
    exact Node.pass_means fun v s hs => nomatch hs
  | some s =>
    rw [hlookup] at h
    refine Node.Means.congr (h (hp.refFree s (.single hname hlookup))) fun v => ?_
    simp

theorem ifThenElse_means (hp : Placed formats members .ifThenElse p)
    (h : p.MakesIfThenElse (satisfying formats) nodes) :
    AllMean nodes (Fulfils formats members .ifThenElse) := by
  have hschema : p.schema = (members.lookup "if").getD .null := hp.schema
  unfold KeywordPlace.MakesIfThenElse at h
  split at h
  · next hnull =>
    subst h
    cases hlookup : members.lookup "if" with
    | none =>
      refine .nil fun v => ?_
      rw [Fulfils]
      simp [hlookup]
    | some s =>
      have htyped := hp.typed s hlookup
      rw [hlookup, Option.getD_some] at hschema
      rw [← hschema, hnull] at htyped
      cases htyped
  · next hthen helse _ =>
    -- without `then` and `else` the condition decides nothing
    subst h
    rw [hp.sibling?_eq] at hthen helse
    refine .nil fun v => ?_
    rw [Fulfils]
    simp [hthen, helse]
  · next hnull _ =>
    obtain ⟨condition, thenBranch, elseBranch, text, hc, ht, he, rfl⟩ := h
    cases hlookup : members.lookup "if" with
    | none => exact absurd (by rw [hschema, hlookup]; rfl) hnull
    | some s =>
      rw [hlookup, Option.getD_some] at hschema
      rw [hschema] at hc
      have hfree := hp.refFree s (.single (by decide) hlookup)
      refine (AllMean.single (Node.ifThenElse_means (hc hfree) (branch_means hp (by decide) ht)
        (branch_means hp (by decide) he))).congr fun v => ?_
      rw [Fulfils, hlookup]
      simp

/-! ## Every keyword -/

/-- **What a keyword contributes means what the keyword says.** -/
theorem keyword_means (hk : k ≠ .ref) (hp : Placed formats members k p)
    (h : p.Makes (satisfying formats) R k nodes) : AllMean nodes (Fulfils formats members k) := by
  cases k with
  | ref => exact absurd rfl hk
  | items => exact items_means hp h
  | contains => exact contains_means hp h
  | dependencies => exact dependencies_means hp h
  | propertyNames => exact nameSchema_means hp h
  | properties => exact properties_means hp h
  | not => exact not_means hp h
  | anyOf => exact anyOf_means hp h
  | oneOf => exact oneOf_means hp h
  | allOf => exact allOf_means hp h
  | ifThenElse => exact ifThenElse_means hp h
  | _ => exact assertion_means rfl hp h

end JsonSchema
