import JsonSchema.Proofs.Evaluation.Congruence
import JsonSchema.Proofs.Evaluation.SameVerdict
import JsonSchema.Proofs.Draft7.Applicators
import JsonSchema.Proofs.Reference.Inlining

/-!
# Lowering a schema with its references replaced

A keyword is lowered twice: in a schema, and in the schema with its references replaced.  Given that the
bodies of the subschemas on the left are like those on the right (`Transcript`), so are the nodes that
the keyword contributes (`KeywordPlace.Makes.transcribed`).  **The right side is shown to succeed**, and to
open no procedure (`LowerM.Gives`); all that is used of the left is what `Makes` says.

Replacing changes what is lowered in two ways that matter here.  A subschema may become `true`, which
leaves no node behind, and a schema of additional items or properties may become `false`, for which
there are checks of their own.
-/

set_option autoImplicit false

namespace JsonSchema

/-! ## Nodes around bodies -/

namespace Node

/-- What stands around a body that always passes always passes. -/
def KeepsPass (around : Node → Node) : Prop :=
  ∀ call failFast l, (run call failFast (around .pass) l).Decides True

section

variable {call call' : Nat → Location → Run} {failFast : Bool} {body body' n n' : Node} {ns ns' : List Node}

theorem KeepsPass.descend (step : Step) : KeepsPass (.descend step) := by
  intro call failFast l
  rw [run_descend]
  split <;> exact .pass trivial

theorem KeepsPass.items (start : Nat) : KeepsPass (.items start) := by
  intro call failFast l
  rw [run_items]
  exact (Run.Decides.every fun _ _ => .pass trivial).congr (by simp)

theorem KeepsPass.properties (filter : PropertyFilter) : KeepsPass (.properties filter) := by
  intro call failFast l
  rw [run_properties]
  exact (Run.Decides.every fun _ _ => .pass trivial).congr (by simp)

theorem KeepsPass.propertyNames (site : ErrorSite) : KeepsPass (.propertyNames · site) := by
  intro call failFast l
  rw [run_propertyNames]
  exact (Run.Decides.every fun _ _ => (Run.Decides.pass trivial).noting _).congr (by simp)

theorem KeepsPass.ifPresent (name : String) : KeepsPass (.ifPresent name) := by
  intro call failFast l
  rw [run_ifPresent]
  split <;> exact .pass trivial

/-- Leaving out the node around a body that always passes changes no verdict. -/
theorem every_unlessPass {around : Node → Node} (hpass : KeepsPass around) {φ : Prop} {l : Location}
    (h : ((around body).run call failFast l).Decides φ) :
    (Run.every failFast ((unlessPass body around).map (run call failFast · l))).Decides φ := by
  unfold unlessPass
  cases body with
  | pass => exact .every_nil (h.iff_passes.mp (hpass call failFast l))
  | _ =>
    show (Run.every failFast [_]).Decides φ
    rw [Run.every_single]
    exact h

theorem Alike.unlessPass {around around' : Node → Node} (hpass : KeepsPass around)
    (hpass' : KeepsPass around') (h : Alike call call' failFast (around body) (around' body')) :
    AllAlike call call' failFast (unlessPass body around) (JsonSchema.unlessPass body' around') := by
  intro l
  obtain ⟨φ, hφ, hφ'⟩ := h l
  exact ⟨φ, every_unlessPass hpass hφ, every_unlessPass hpass' hφ'⟩

theorem Alike.unlessPass_left {around : Node → Node} (hpass : KeepsPass around)
    (h : Alike call call' failFast (around body) n') :
    AllAlike call call' failFast (JsonSchema.unlessPass body around) [n'] := by
  intro l
  obtain ⟨φ, hφ, hφ'⟩ := h l
  rw [List.map_singleton, Run.every_single]
  exact ⟨φ, every_unlessPass hpass hφ, hφ'⟩

end

end Node

/-! ## Runs that refuse nothing and open nothing -/

namespace LowerM

/-- The run only answers, and has `Q` of its answer. -/
def Gives {α : Type} (m : LowerM α) (Q : α → Prop) : Prop := ∃ a, m = pure a ∧ Q a

variable {α β : Type} {Q : α → Prop} {R : β → Prop}

theorem Gives.pure {a : α} (h : Q a) : Gives (Pure.pure a) Q := ⟨a, rfl, h⟩

theorem Gives.weaken {Q' : α → Prop} {m : LowerM α} (h : Gives m Q) (hq : ∀ a, Q a → Q' a) : Gives m Q' :=
  let ⟨a, hm, ha⟩ := h
  ⟨a, hm, hq a ha⟩

theorem Gives.bind {m : LowerM α} {f : α → LowerM β} (hm : Gives m Q) (hf : ∀ a, Q a → Gives (f a) R) :
    Gives (m >>= f) R := by
  obtain ⟨a, rfl, ha⟩ := hm
  rw [pure_bind]
  exact hf a ha

theorem Gives.liftExcept {x : Except SchemaError α} {a : α} (hx : x = .ok a) (h : Q a) :
    Gives (liftExcept x) Q := ⟨a, by rw [hx]; rfl, h⟩

/-- A traversal of which every step answers. -/
theorem Gives.mapM {γ : Type} {f : α → LowerM β} {rel : γ → β → Prop} {xs : List α} {ys : List γ}
    (h : List.Forall₂ (fun x y => Gives (f x) (rel y)) xs ys) :
    Gives (xs.mapM f) (List.Forall₂ rel ys) := by
  induction h with
  | nil =>
    rw [List.mapM_nil]
    exact .pure .nil
  | cons hx _ ih =>
    rw [List.mapM_cons]
    exact .bind hx fun z hz => .bind ih fun zs hzs => .pure (.cons hz hzs)

theorem Gives.guard {γ : Type} {c : Prop} [Decidable c] {e : SchemaError} {f : γ → LowerM α} {m : LowerM α}
    (hc : ¬ c) (h : Gives m Q) : Gives (if c then JsonSchema.refuse e >>= f else m) Q := by
  rw [if_neg hc]
  exact h

end LowerM

/-- What gives the same answers wherever it gives one does so over a list. -/
theorem mapM_ok_of_imp {α β : Type} {f g : α → Except SchemaError β}
    (h : ∀ x y, f x = .ok y → g x = .ok y) {xs : List α} {ys : List β} (hf : xs.mapM f = .ok ys) :
    xs.mapM g = .ok ys := by
  induction xs generalizing ys with
  | nil => exact hf
  | cons x rest ih =>
    rw [List.mapM_cons] at hf ⊢
    cases hx : f x with
    | error e => simp [hx, bind, Except.bind] at hf
    | ok y =>
      cases hrest : rest.mapM f with
      | error e => simp [hx, hrest, bind, Except.bind] at hf
      | ok others =>
        rw [hx, hrest] at hf
        rw [h x y hx, ih hrest]
        exact hf

/-! ## What is known of the subschemas -/

open Node LowerM

/-- A way of lowering the replaced schemas, and what is known of the bodies of the schemas that they replace. -/
structure Transcript (T : Json → Json → Prop) (B : BodyRel) (lower : Lower)
    (call call' : Nat → Location → Run) (failFast : Bool) : Prop where
  leaf : ∀ {s s'}, T s s' → s.obj? = none → s' = s
  schema : ∀ {s s'}, T s s' → s.isSchema = true → s'.isSchema = true
  isSchema : ∀ {s position body}, B s position body → s.isSchema = true
  body : ∀ {s s' position body}, T s s' → B s position body →
    ∀ position', Gives (lower s' position') (Alike call call' failFast body)
  always : ∀ {s}, T s (.bool true) → ∀ position, lower (.bool true) position = pure .pass
  never : ∀ {s}, T s (.bool false) → ∀ position, ∃ site,
    lower (.bool false) position = pure (.reject site)

namespace Transcript

variable {T : Json → Json → Prop} {B : BodyRel} {lower : Lower}
  {call call' : Nat → Location → Run} {failFast : Bool} {position : Position} {body : Node}
  (t : Transcript T B lower call call' failFast)

include t

/-- Lowering one part. -/
theorem part {s s' : Json} {around around' : Node → Node}
    (hs : T s s') (hb : B s position body) (hpass : KeepsPass around) (hpass' : KeepsPass around')
    (haround : ∀ body', Alike call call' failFast body body' →
      Alike call call' failFast (around body) (around' body')) (position' : Position) :
    Gives (do let body ← lower s' position'; return unlessPass body around')
      (AllAlike call call' failFast (unlessPass body around)) :=
  .bind (t.body hs hb position') fun _ hbody => .pure ((haround _ hbody).unlessPass hpass hpass')

/-- The body of a schema that is replaced by `true` always passes. -/
theorem alike_pass {s : Json} (hs : T s (.bool true))
    (hb : B s position body) : Alike call call' failFast body .pass := by
  obtain ⟨body', hlower, hbody⟩ := t.body hs hb position
  rw [t.always hs] at hlower
  have hpass : body' = .pass := (LowerM.pure_eq_ok.mp (congrFun hlower [])).1
  exact hpass ▸ hbody

/-- The body of a schema that is replaced by `false` never passes. -/
theorem alike_reject {s : Json} (hs : T s (.bool false))
    (hb : B s position body) : ∃ site, Alike call call' failFast body (.reject site) := by
  obtain ⟨body', hlower, hbody⟩ := t.body hs hb position
  obtain ⟨site, hsite⟩ := t.never hs position
  rw [hsite] at hlower
  have hreject : body' = .reject site := (LowerM.pure_eq_ok.mp (congrFun hlower [])).1
  exact ⟨site, hreject ▸ hbody⟩

end Transcript

/-- The value of a keyword for a single schema is replaced as a schema. -/
theorem ValueInlined.of_isSchema {T : Json → Json → Prop} {keyword : String} {v v' : Json}
    (h : ValueInlined T keyword v v') (hmap : keyword ∉ schemaMapKeywords)
    (hkeyword : keyword ∈ schemaKeywords) (hv : v.isSchema = true) : T v v' := by
  rw [ValueInlined, if_neg hmap, if_pos hkeyword] at h
  rcases h with ⟨ss, ss', rfl, -⟩ | ⟨-, h⟩
  · cases hv
  · exact h

theorem ValueInlined.of_arr {T : Json → Json → Prop} {keyword : String} {ss : List Json} {v' : Json}
    (h : ValueInlined T keyword (.arr ss) v') (hmap : keyword ∉ schemaMapKeywords)
    (hkeyword : keyword ∈ schemaKeywords) : ∃ ss', v' = .arr ss' ∧ List.Forall₂ T ss ss' := by
  rw [ValueInlined, if_neg hmap, if_pos hkeyword] at h
  rcases h with ⟨_, ss', heq, rfl, hss⟩ | ⟨harr, -⟩
  · cases heq
    exact ⟨ss', rfl, hss⟩
  · cases harr

/-- The members of a keyword that gives schemas to names. -/
theorem ValueInlined.members {T : Json → Json → Prop} {keyword : String} {v v' : Json}
    (h : ValueInlined T keyword v v') (hmap : keyword ∈ schemaMapKeywords) :
    List.Forall₂ (fun m m' => m'.1 = m.1 ∧ T m.2 m'.2) (v.obj?.getD []) (v'.obj?.getD []) := by
  rw [ValueInlined, if_pos hmap] at h
  rcases h with ⟨ms, ms', rfl, rfl, hms⟩ | ⟨hnone, rfl⟩
  · exact hms
  · rw [hnone]
    exact .nil

namespace KeywordPlace

/-- The places of one keyword in a schema and in the schema with its references replaced. -/
structure Replaced (T : Json → Json → Prop) (k : BuiltinKeyword) (p p' : KeywordPlace) : Prop where
  parent : MembersInlined T p.parent p'.parent
  /-- Neither schema has the keyword, or its value is replaced. -/
  schema : (p.schema = .null ∧ p'.schema = .null) ∨ ValueInlined T k.name p.schema p'.schema
  data : p'.data = p.data
  expects : p'.expects = p.expects
  options : p'.env.options = p.env.options
  formats : p'.env.formats = p.env.formats

section

variable {T : Json → Json → Prop} {B : BodyRel} {lower : Lower}
  {call call' : Nat → Location → Run} {failFast : Bool} {p p' : KeywordPlace} {k : BuiltinKeyword}
  {nodes : List Node}

theorem Replaced.of_isSchema (hp : Replaced T k p p') (hmap : k.name ∉ schemaMapKeywords)
    (hkeyword : k.name ∈ schemaKeywords) (hschema : p.schema.isSchema = true) :
    T p.schema p'.schema := by
  rcases hp.schema with ⟨hnull, -⟩ | h
  · rw [hnull] at hschema
    cases hschema
  · exact h.of_isSchema hmap hkeyword hschema

theorem Replaced.of_arr (hp : Replaced T k p p') (hmap : k.name ∉ schemaMapKeywords)
    (hkeyword : k.name ∈ schemaKeywords) {ss : List Json} (hschema : p.schema = .arr ss) :
    ∃ ss', p'.schema = .arr ss' ∧ List.Forall₂ T ss ss' := by
  rcases hp.schema with ⟨hnull, -⟩ | h
  · rw [hschema] at hnull
    cases hnull
  · rw [hschema] at h
    exact h.of_arr hmap hkeyword

theorem Replaced.members (hp : Replaced T k p p') (hmap : k.name ∈ schemaMapKeywords) :
    List.Forall₂ (fun m m' => m'.1 = m.1 ∧ T m.2 m'.2) (p.schema.obj?.getD []) (p'.schema.obj?.getD []) := by
  rcases hp.schema with ⟨hnull, hnull'⟩ | h
  · rw [hnull, hnull']
    exact .nil
  · exact h.members hmap

/-- Keywords without subschemas keep their values. -/
theorem Replaced.schema_eq (hp : Replaced T k p p') (hmap : k.name ∉ schemaMapKeywords)
    (hkeyword : k.name ∉ schemaKeywords) : p'.schema = p.schema := by
  rcases hp.schema with ⟨hnull, hnull'⟩ | h
  · rw [hnull, hnull']
  · rwa [ValueInlined, if_neg hmap, if_neg hkeyword] at h

/-- Parts that are lowered one after the other on the right. -/
theorem gives_of_assembled {α : Type} {f : α → LowerM (List Node)} {parts : List Part} {xs : List α}
    (hparts : List.Forall₂ (fun part x => ∀ body, part.Made body →
      Gives (f x) (AllAlike call call' failFast (unlessPass body part.around))) parts xs) :
    ∀ {nodes}, Assembled parts nodes →
      Gives (xs.mapM f) fun nss => AllAlike call call' failFast nodes nss.flatten := by
  induction hparts with
  | nil =>
    intro nodes h
    cases h
    rw [List.mapM_nil]
    exact .pure .nil
  | cons hpart _ ih =>
    intro nodes h
    cases h with
    | cons hm hrest =>
      rw [List.mapM_cons]
      exact .bind (hpart _ hm) fun ns hns => .bind (ih hrest) fun nss hnss => .pure (hns.append hnss)

/-- The names that a list of property names gives do not depend on the place. -/
theorem propertyNames_eq_ok {names : Json} {needed : List String}
    (h : p.propertyNames names = .ok needed) : p'.propertyNames names = .ok needed := by
  refine mapM_ok_of_imp (fun item name hitem => ?_) h
  cases item with
  | str _ => exact hitem
  | _ => cases hitem

theorem alike_dataCheck {site site' : ErrorSite} {fails : Json → Bool} (h : site'.schema = site.schema) :
    Alike call call' failFast (dataCheck site fails) (dataCheck site' fails) :=
  .check (congrArg SchemaValue.literal h) rfl rfl

/-- One check for each name, wherever the names are asked for. -/
theorem alike_dataChecks {names : List String} {site site' : String → ErrorSite}
    (h : ∀ name, (site' name).schema = (site name).schema) :
    AllAlike call call' failFast (names.map fun name => dataCheck (site name) (lacks name))
      (names.map fun name => dataCheck (site' name) (lacks name)) :=
  .of_forall₂ (forall₂_map fun name _ => alike_dataCheck (h name))

theorem neededProperties_transcribed {name : String} {names : Json}
    (h : p.neededProperties name names = .ok nodes) :
    ∃ nodes', p'.neededProperties name names = .ok nodes' ∧ AllAlike call call' failFast nodes nodes' := by
  obtain ⟨needed, text, hneeded, rfl⟩ := neededProperties_cases h
  unfold neededProperties
  rw [propertyNames_eq_ok hneeded]
  exact ⟨_, rfl, alike_dataChecks fun _ => rfl⟩

/-- The members of a keyword beside this one that gives schemas to names. -/
theorem Replaced.siblingMembers (hp : Replaced T k p p') {keyword : String}
    (hmap : keyword ∈ schemaMapKeywords) :
    List.Forall₂ (fun m m' => m'.1 = m.1 ∧ T m.2 m'.2) (p.siblingMembers keyword)
      (p'.siblingMembers keyword) := by
  unfold KeywordPlace.siblingMembers sibling?
  rcases hp.parent.lookup keyword with ⟨hnone, hnone'⟩ | ⟨v, v', hv, hv', hvalue⟩
  · rw [hnone, hnone']
    exact .nil
  · rw [hv, hv']
    exact hvalue.members hmap

/-- Where no member can satisfy its schema there must be none. -/
theorem alike_noProperties {body : Node} {site : ErrorSite} (filter : PropertyFilter) (site' : ErrorSite)
    (h : Alike call call' failFast body (.reject site)) :
    Alike call call' failFast (.properties filter body) (.noProperties filter site') := by
  refine (h.properties filter).trans (Means.alike ?_ (noProperties_means filter site'))
  exact Node.properties_means (reject_means site fun _ => id)

theorem alike_noAdditionalItems {body : Node} {site : ErrorSite} {count : Nat}
    (h : Alike call call' failFast body (.reject site)) :
    Alike call call' failFast (.items count body) (p'.noAdditionalItems count) := by
  refine (h.items count).trans (Means.alike (Node.items_means (reject_means site fun _ => id)) ?_)
  refine (check_means (w := .bool false) rfl).congr fun v => ?_
  rw [tooLong_eq_false]
  refine forall_congr' fun vs => forall_congr' fun _ => ?_
  rw [← List.drop_eq_nil_iff, List.eq_nil_iff_forall_not_mem]

/-- The value of a keyword beside this one, before and after. -/
theorem Replaced.sibling (hp : Replaced T k p p') (keyword : String) :
    (p.sibling? keyword = none ∧ p'.sibling? keyword = none) ∨
      ∃ v v', p.sibling? keyword = some v ∧ p'.sibling? keyword = some v' ∧ ValueInlined T keyword v v' :=
  hp.parent.lookup keyword

theorem Replaced.otherMembers (hp : Replaced T k p p') (patterns : List Regex) :
    p'.otherMembers patterns = p.otherMembers patterns := by
  have hnames : ∀ {ms ms' : List (String × Json)},
      List.Forall₂ (fun m m' => m'.1 = m.1 ∧ T m.2 m'.2) ms ms' → ms'.map Prod.fst = ms.map Prod.fst := by
    intro ms ms' h
    induction h with
    | nil => rfl
    | cons hm _ ih => rw [List.map_cons, List.map_cons, hm.1, ih]
  unfold KeywordPlace.otherMembers
  rw [hnames (hp.siblingMembers (by decide))]

variable (t : Transcript T B lower call call' failFast)

include t

theorem MakesContains.transcribed (hp : Replaced T .contains p p') (h : p.MakesContains B nodes) :
    Gives (p'.contains lower) (AllAlike call call' failFast nodes) := by
  obtain ⟨body, text, hb, rfl⟩ := h
  have hs := hp.of_isSchema (by decide) (by decide) (t.isSchema hb)
  exact .bind (t.body hs hb _) fun _ hbody => .pure (Alike.single (.contains _ _ hbody))

theorem MakesNameSchema.transcribed (hp : Replaced T .propertyNames p p')
    (h : p.MakesNameSchema B nodes) :
    Gives (p'.nameSchema lower) (AllAlike call call' failFast nodes) := by
  obtain ⟨text, h⟩ := h
  cases h with
  | @cons part _ body nodes hb hrest =>
  cases hrest
  have hs := hp.of_isSchema (by decide) (by decide) (t.isSchema hb)
  rw [List.append_nil]
  exact t.part hs hb (.propertyNames _) (.propertyNames _) (fun _ h => h.propertyNames _ _) _

theorem tupleItems_transcribed {tuple tuple' : List Json} (htuple : List.Forall₂ T tuple tuple') :
    ∀ start {nodes}, Assembled (p.tupleParts B start tuple) nodes →
      Gives (p'.tupleItems lower start tuple') (AllAlike call call' failFast nodes) := by
  induction htuple with
  | nil =>
    intro start nodes h
    cases h
    exact .pure .nil
  | cons hs _ ih =>
    intro start nodes h
    cases h with
    | cons hb hrest =>
      refine .bind (t.body hs hb _) fun body' hbody => .bind (ih (start + 1) hrest) fun others hothers => ?_
      exact .pure (((hbody.descend _).unlessPass (.descend _) (.descend _)).append hothers)

theorem dependency_transcribed {m m' : String × Json} {body : Node} (hname : m'.1 = m.1)
    (hs : T m.2 m'.2) (h : (p.dependencyPart B m).Made body) :
    Gives (p'.dependency lower m'.1 m'.2) (Alike call call' failFast body) := by
  obtain ⟨name, needs⟩ := m
  obtain ⟨name', needs'⟩ := m'
  obtain rfl : name' = name := hname
  have hsingle : ∀ position, B needs position body → needs'.arr? = none →
      Gives (p'.dependency lower name' needs') (Alike call call' failFast body) := by
    intro position hb harr
    unfold dependency
    cases needs' with
    | arr names => cases harr
    | _ => exact t.body hs hb _
  have hnotList : needs.isSchema = true → needs'.arr? = none := by
    intro hschema
    have := t.schema hs hschema
    cases needs' <;> first | rfl | cases this
  unfold dependencyPart at h
  cases needs with
  | arr names =>
    obtain rfl := t.leaf hs rfl
    obtain ⟨checks, hchecks, rfl⟩ := h
    obtain ⟨checks', hchecks', hlist⟩ :
        ∃ checks', p'.neededProperties name' (.arr names) = .ok checks' ∧
          AllAlike call call' failFast checks checks' := neededProperties_transcribed hchecks
    exact .bind (.liftExcept hchecks' hlist) fun _ h => .pure h.conj
  | _ => exact hsingle _ h (hnotList (t.isSchema h))

theorem MakesDependencies.transcribed (hp : Replaced T .dependencies p p')
    (h : p.MakesDependencies B nodes) :
    Gives (p'.dependencies lower) (AllAlike call call' failFast nodes) := by
  have hone : ∀ m m' : String × Json, m'.1 = m.1 ∧ T m.2 m'.2 → ∀ body,
      (p.dependencyPart B m).Made body →
      Gives (do let body ← p'.dependency lower m'.1 m'.2; return unlessPass body (.ifPresent m'.1))
        (AllAlike call call' failFast (unlessPass body (p.dependencyPart B m).around)) := by
    rintro m m' ⟨hname, hs⟩ body hmade
    refine .bind (dependency_transcribed t hname hs hmade) fun body' hbody => .pure ?_
    rw [hname]
    exact (hbody.ifPresent m.1).unlessPass (.ifPresent _) (.ifPresent _)
  refine .bind (gives_of_assembled ?_ h) fun nss hnss => .pure hnss
  rw [List.forall₂_map_left_iff]
  exact (hp.members (by decide)).imp hone

theorem namedProperties_transcribed (hp : Replaced T k p p')
    (h : Assembled ((p.siblingMembers "properties").map (p.namedPart B)) nodes) :
    Gives (p'.namedProperties lower) (AllAlike call call' failFast nodes) := by
  refine .bind (gives_of_assembled ?_ h) fun nss hnss => .pure hnss
  rw [List.forall₂_map_left_iff]
  refine (hp.siblingMembers (by decide)).imp ?_
  rintro m m' ⟨hname, hs⟩ body hb
  refine t.part hs hb (.descend _) (.descend _) (fun _ h => ?_) _
  rw [hname]
  exact h.descend _

theorem patternProperties_transcribed (hp : Replaced T k p p') {patterns : List Regex}
    (hpatterns : List.Forall₂ (fun m r => Regex.parse? m.1 = some r)
      (p.siblingMembers "patternProperties") patterns)
    (h : Assembled (((p.siblingMembers "patternProperties").zip patterns).map (p.patternPart B)) nodes) :
    Gives (p'.patternProperties lower) fun made =>
      AllAlike call call' failFast nodes made.1 ∧ made.2 = patterns := by
  have hmembers : List.Forall₂ _ _ (p'.siblingMembers "patternProperties") := hp.siblingMembers (by decide)
  refine .bind (Q := fun compiled => AllAlike call call' failFast nodes (compiled.flatMap Prod.fst) ∧
    compiled.map Prod.snd = patterns) ?_ fun compiled h => .pure h
  generalize p.siblingMembers "patternProperties" = ms at hpatterns h hmembers
  generalize p'.siblingMembers "patternProperties" = ms' at hmembers
  induction hmembers generalizing patterns nodes with
  | nil =>
    cases hpatterns
    cases h
    rw [List.mapM_nil]
    exact .pure ⟨.nil, rfl⟩
  | @cons m m' rest rest' hm _ ih =>
    obtain ⟨pattern, schema⟩ := m
    obtain ⟨pattern', schema'⟩ := m'
    obtain ⟨hname, hs⟩ := hm
    obtain rfl : pattern' = pattern := hname
    cases hpatterns with
    | @cons _ r _ patterns hr hrest =>
    cases h with
    | @cons _ _ body nodes hb hnodes =>
    rw [List.mapM_cons]
    refine .bind (Q := fun made => AllAlike call call' failFast
      (unlessPass body (.properties (.named r))) made.1 ∧ made.2 = r) ?_ fun made hmade => ?_
    · dsimp only at hr ⊢
      rw [hr]
      refine .bind (t.body hs hb _) fun body' hbody => .pure ⟨?_, rfl⟩
      exact (hbody.properties _).unlessPass (.properties _) (.properties _)
    · refine .bind (ih hrest hnodes) fun compiled hcompiled => .pure ?_
      rw [List.flatMap_cons, List.map_cons, hmade.2, hcompiled.2]
      exact ⟨hmade.1.append hcompiled.1, rfl⟩

/-- The other members where their schema may have been replaced by a Boolean, which is lowered in a way
    of its own. -/
theorem additionalProperties_of_schema {patterns : List Regex} {s s' : Json} {position : Position}
    {body : Node} (hs' : p'.sibling? "additionalProperties" = some s') (hs : T s s')
    (hb : B s position body) :
    Gives (p'.additionalProperties lower patterns)
      (AllAlike call call' failFast (unlessPass body (.properties (p'.otherMembers patterns)))) := by
  have hschema := t.schema hs (t.isSchema hb)
  unfold additionalProperties
  rw [hs']
  cases s' with
  | bool allowed =>
    cases allowed with
    | true =>
      have hbody := ((t.alike_pass hs hb).properties (p'.otherMembers patterns))
      exact .pure (hbody.unlessPass (.properties _) (.properties _))
    | false =>
      obtain ⟨site, hbody⟩ := t.alike_reject hs hb
      exact .pure ((alike_noProperties _ _ hbody).unlessPass_left (.properties _))
  | obj ms => exact t.part hs hb (.properties _) (.properties _) (fun _ h => h.properties _) _
  | _ => cases hschema

theorem additionalProperties_transcribed (hp : Replaced T k p p') {patterns : List Regex}
    (h : p.MakesOthers B patterns nodes) :
    Gives (p'.additionalProperties lower patterns) (AllAlike call call' failFast nodes) := by
  have hfilter := hp.otherMembers patterns
  unfold MakesOthers at h
  rcases hp.sibling "additionalProperties" with ⟨hnone, hnone'⟩ | ⟨v, v', hv, hv', hvalue⟩
  · rw [hnone] at h
    subst h
    unfold additionalProperties
    rw [hnone']
    exact .pure .nil
  · rw [hv] at h
    have hT : v.isSchema = true → T v v' := hvalue.of_isSchema (by decide) (by decide)
    have hschema : ∀ position, Assembled [⟨B v position, .properties (p.otherMembers patterns)⟩] nodes →
        Gives (p'.additionalProperties lower patterns) (AllAlike call call' failFast nodes) := by
      intro position h
      cases h with
      | cons hb hrest =>
      cases hrest
      rw [List.append_nil, ← hfilter]
      exact additionalProperties_of_schema t hv' (hT (t.isSchema hb)) hb
    cases v with
    | bool allowed =>
      obtain rfl := t.leaf (hT rfl) rfl
      unfold additionalProperties
      rw [hv']
      cases allowed with
      | true =>
        subst h
        exact .pure .nil
      | false =>
        obtain ⟨text, rfl⟩ := h
        rw [← hfilter]
        exact .pure (Alike.single (.noProperties _ _ _))
    | _ => exact hschema _ h

theorem MakesProperties.transcribed (hp : Replaced T .properties p p')
    (h : p.MakesProperties B nodes) :
    Gives (p'.properties lower) (AllAlike call call' failFast nodes) := by
  obtain ⟨hobj, patterns, named, matched, others, hpatterns, hnamed, hmatched, hothers, rfl⟩ := h
  have hobj' : ¬ (p'.sibling? "patternProperties").any (·.obj?.isNone) = true := by
    rcases hp.sibling "patternProperties" with ⟨-, hnone'⟩ | ⟨v, v', hv, hv', hvalue⟩
    · simp [hnone']
    · rw [ValueInlined, if_pos (by decide)] at hvalue
      rcases hvalue with ⟨_, _, -, rfl, -⟩ | ⟨hnone, -⟩
      · simp [hv', Json.obj?]
      · have := hobj v hv
        simp [hnone] at this
  refine .guard hobj' ?_
  refine .bind (namedProperties_transcribed t hp hnamed) fun named' hnamed' => ?_
  refine .bind (patternProperties_transcribed t hp hpatterns hmatched) fun made hmade => ?_
  obtain ⟨hmatched', rfl⟩ := hmade
  refine .bind (additionalProperties_transcribed t hp hothers) fun others' hothers' => ?_
  exact .pure ((hnamed'.append hmatched').append hothers')

/-- A keyword that is missing or `null` before is so after. -/
theorem Replaced.schema_null (hp : Replaced T k p p') (hmap : k.name ∉ schemaMapKeywords)
    (hkeyword : k.name ∈ schemaKeywords) (hnull : p.schema = .null) : p'.schema = .null := by
  rcases hp.schema with ⟨-, hnull'⟩ | h
  · exact hnull'
  · rw [hnull, ValueInlined, if_neg hmap, if_pos hkeyword] at h
    rcases h with ⟨_, _, h, -⟩ | ⟨-, h⟩
    · cases h
    · exact t.leaf h rfl

/-! ### Arrays -/

theorem elementsFrom_transcribed {keyword : String} {start : Nat} {s s' : Json} (hs : T s s')
    (h : Assembled [p.elementsPart B keyword start s] nodes) :
    Gives (p'.elementsFrom lower keyword start s') (AllAlike call call' failFast nodes) := by
  cases h with
  | cons hb hrest =>
  cases hrest
  rw [List.append_nil]
  exact t.part hs hb (.items _) (.items _) (fun _ h => h.items _) _

/-- What comes after a tuple, where the schema of additional items may have been replaced by a Boolean,
    which is lowered in a way of its own: the check for `false` comes first. -/
theorem additionalItems_transcribed (hp : Replaced T k p p') {count : Nat}
    {fixed fixed' others : List Node} {f : List Node → LowerM (List Node)}
    (hshape : ∀ a, p.sibling? "additionalItems" = some a → a.bool?.isSome ∨ a.obj?.isSome)
    (hfixed : AllAlike call call' failFast fixed fixed')
    (h : Assembled (p.additionalItemsParts B count) others)
    (hf : ∀ others', f others' =
      pure ((if (p'.sibling? "additionalItems").any (·.bool? == some false) then
        [p'.noAdditionalItems count] else []) ++ fixed' ++ others')) :
    Gives (match p'.sibling? "additionalItems" with
        | some (.obj members) => p'.elementsFrom lower "additionalItems" count (.obj members) >>= f
        | _ => pure [] >>= f)
      (AllAlike call call' failFast
        ((if (p.sibling? "additionalItems").any (·.bool? == some false) then
          [p.noAdditionalItems count] else []) ++ (fixed ++ others))) := by
  unfold additionalItemsParts at h
  rcases hp.sibling "additionalItems" with ⟨hnone, hnone'⟩ | ⟨v, v', hv, hv', hvalue⟩
  · rw [hnone] at h ⊢
    rw [hnone'] at hf ⊢
    cases h
    dsimp only
    rw [pure_bind, hf]
    exact .pure (by simpa using hfixed)
  · rw [hv] at h hshape ⊢
    rw [hv'] at hf ⊢
    have hT : v.isSchema = true → T v v' := hvalue.of_isSchema (by decide) (by decide)
    cases v with
    | bool allowed =>
      obtain rfl := t.leaf (hT rfl) rfl
      cases h
      dsimp only
      rw [pure_bind, hf]
      cases allowed with
      | true => exact .pure (by simpa [Json.bool?] using hfixed)
      | false =>
        have hnone : Alike call call' failFast (p.noAdditionalItems count) (p'.noAdditionalItems count) :=
          alike_dataCheck rfl
        exact .pure (by simpa [Json.bool?] using hnone.single.append hfixed)
    | obj ms =>
      cases h with
      | cons hb hrest =>
      cases hrest
      have hs := hT rfl
      have hschema := t.schema hs rfl
      cases v' with
      | bool allowed =>
        dsimp only
        rw [pure_bind, hf]
        cases allowed with
        | true =>
          have hbody := (t.alike_pass hs hb).items count
          have hothers : AllAlike call call' failFast _ [] := hbody.unlessPass (.items _) (.items _)
          exact .pure (by simpa [Json.bool?, elementsPart] using hfixed.append hothers)
        | false =>
          obtain ⟨site, hbody⟩ := t.alike_reject hs hb
          have hnone : Alike call call' failFast _ (p'.noAdditionalItems count) :=
            alike_noAdditionalItems hbody
          have hothers := hnone.unlessPass_left (.items count)
          exact .pure (by simpa [Json.bool?, elementsPart] using hfixed.append_comm hothers)
      | obj ms' =>
        dsimp only
        refine .bind (t.part hs hb (.items _) (.items _) (fun _ h => h.items _) _) fun others' hothers => ?_
        rw [hf]
        exact .pure (by simpa [Json.bool?, elementsPart] using hfixed.append hothers)
      | _ => cases hschema
    | _ => simp [Json.bool?, Json.obj?] at hshape

theorem MakesItems.transcribed (hp : Replaced T .items p p') (h : p.MakesItems B nodes) :
    Gives (p'.items lower) (AllAlike call call' failFast nodes) := by
  obtain ⟨hshape, h⟩ := h
  have hshape' : ¬ (p'.sibling? "additionalItems").any
      (fun a => a.bool?.isNone && a.obj?.isNone) = true := by
    rcases hp.sibling "additionalItems" with ⟨-, hnone'⟩ | ⟨v, v', hv, hv', hvalue⟩
    · simp [hnone']
    · have hv : v.isSchema = true := by
        have := hshape v hv
        cases v <;> simp_all [Json.bool?, Json.obj?, Json.isSchema]
      have hschema := t.schema (hvalue.of_isSchema (by decide) (by decide) hv) hv
      rw [hv']
      cases v' <;> first | cases hschema; done | simp [Json.bool?, Json.obj?]
  refine .guard hshape' ?_
  cases hschema : p.schema with
  | null =>
    rw [hschema] at h
    subst h
    rw [hp.schema_null t (by decide) (by decide) hschema]
    exact .pure .nil
  | arr tuple =>
    rw [hschema] at h
    obtain ⟨others, hothers, rfl⟩ := h
    obtain ⟨fixed, rest, rfl, hfixed, hrest⟩ := hothers.split
    obtain ⟨tuple', hschema', htuple⟩ := hp.of_arr (by decide) (by decide) hschema
    rw [hschema']
    dsimp only
    refine .bind (tupleItems_transcribed t htuple 0 hfixed) fun fixed' hfixed' => ?_
    rw [htuple.length_eq] at hrest ⊢
    exact additionalItems_transcribed t hp hshape hfixed' hrest fun _ => rfl
  | _ =>
    rw [hschema] at h
    have hs : T p.schema p'.schema := by
      cases h with
      | cons hb _ => exact hp.of_isSchema (by decide) (by decide) (hschema ▸ t.isSchema hb)
    have hsingle : Gives (p'.elementsFrom lower "items" 0 p'.schema) (AllAlike call call' failFast nodes) :=
      elementsFrom_transcribed t (p := p) (hschema ▸ hs) h
    have hschema' : p'.schema.isSchema = true := by
      cases h with
      | cons hb _ => exact t.schema hs (hschema ▸ t.isSchema hb)
    cases hvalue : p'.schema with
    | bool _ | obj _ =>
      rw [hvalue] at hsingle
      exact hsingle
    | _ =>
      rw [hvalue] at hschema'
      cases hschema'

/-! ### Combinations of schemas -/

theorem branchesFrom_transcribed {schemas schemas' : List Json} (h : List.Forall₂ T schemas schemas') :
    ∀ start {nodes}, List.Forall₂ (fun m body => B m.1 (p.inside s!"{p.keyword}/{m.2}") body)
      (schemas.zipIdx start) nodes →
      Gives (p'.branchesFrom lower start schemas') (List.Forall₂ (Alike call call' failFast) nodes) := by
  induction h with
  | nil =>
    intro start nodes hnodes
    cases hnodes
    exact .pure .nil
  | cons hs _ ih =>
    intro start nodes hnodes
    cases hnodes with
    | cons hb hrest =>
      refine .bind (t.body hs hb _) fun body' hbody => ?_
      exact .bind (ih (start + 1) hrest) fun bodies hbodies => .pure (.cons hbody hbodies)

theorem MakesBranches.transcribed (hp : Replaced T k p p') (hmap : k.name ∉ schemaMapKeywords)
    (hkeyword : k.name ∈ schemaKeywords) (h : p.MakesBranches B nodes) :
    Gives (p'.branches lower) (List.Forall₂ (Alike call call' failFast) nodes) := by
  obtain ⟨hne, hnodes⟩ := h
  cases hschema : p.schema with
  | arr ss =>
    obtain ⟨ss', hschema', hss⟩ := hp.of_arr hmap hkeyword hschema
    rw [hschema] at hne hnodes
    unfold branches
    rw [hschema']
    cases hss with
    | nil => exact absurd rfl hne
    | cons hs hrest => exact branchesFrom_transcribed t (.cons hs hrest) 0 hnodes
  | _ =>
    rw [hschema] at hne
    exact absurd rfl hne

theorem MakesBranch.transcribed (hp : Replaced T k p p') {keyword : String} {body : Node}
    (hmap : keyword ∉ schemaMapKeywords) (hkeyword : keyword ∈ schemaKeywords)
    (h : p.MakesBranch B keyword body) :
    Gives (p'.branch lower keyword) (Alike call call' failFast body) := by
  unfold MakesBranch at h
  unfold branch
  rcases hp.sibling keyword with ⟨hnone, hnone'⟩ | ⟨v, v', hv, hv', hvalue⟩
  · rw [hnone] at h
    rw [hnone', h]
    exact .pure .pass
  · rw [hv] at h
    rw [hv']
    exact t.body (hvalue.of_isSchema hmap hkeyword (t.isSchema h)) h _

theorem MakesIfThenElse.transcribed (hp : Replaced T .ifThenElse p p') (h : p.MakesIfThenElse B nodes) :
    Gives (p'.ifThenElse lower) (AllAlike call call' failFast nodes) := by
  have hnone : ∀ {keyword}, p.sibling? keyword = none ↔ p'.sibling? keyword = none := by
    intro keyword
    rcases hp.sibling keyword with ⟨hnone, hnone'⟩ | ⟨v, v', hv, hv', -⟩
    · simp [hnone, hnone']
    · simp [hv, hv']
  unfold MakesIfThenElse at h
  unfold ifThenElse
  split at h
  · next hnull =>
    subst h
    rw [hp.schema_null t (by decide) (by decide) hnull]
    exact .pure .nil
  · next hthen helse _ =>
    subst h
    rw [hnone.mp hthen, hnone.mp helse]
    cases p'.schema <;> exact .pure .nil
  · next hbranch =>
    obtain ⟨condition, thenBranch, elseBranch, text, hc, ht, he, rfl⟩ := h
    have hs := hp.of_isSchema (by decide) (by decide) (t.isSchema hc)
    split
    · next hnull =>
      have hschema := t.schema hs (t.isSchema hc)
      rw [hnull] at hschema
      cases hschema
    · next hthen helse _ => exact absurd (hnone.mpr helse) (hbranch (hnone.mpr hthen))
    · refine .bind (t.body hs hc _) fun condition' hcondition => ?_
      refine .bind (MakesBranch.transcribed t hp (by decide) (by decide) ht) fun then' hthen => ?_
      refine .bind (MakesBranch.transcribed t hp (by decide) (by decide) he) fun else' helse => ?_
      exact .pure (Alike.single (.ifThenElse _ _ hcondition hthen helse))

end

/-! ## Keywords without subschemas -/

section

variable {T : Json → Json → Prop} {B : BodyRel} {R : String → Nat → Prop} {lower : Lower}
  {call call' : Nat → Location → Run} {failFast : Bool} {p p' : KeywordPlace} {k : BuiltinKeyword}
  {n : Node} {nodes : List Node}

/-- The same test against the same value. -/
theorem Replaced.alike_check (hp : Replaced T k p p') (hmap : k.name ∉ schemaMapKeywords)
    (hkeyword : k.name ∉ schemaKeywords) (text text' : ErrorText) (fails : Json → Json → Bool) :
    Alike call call' failFast (p.check text fails) (p'.check text' fails) := by
  refine .check ?_ hp.expects rfl
  dsimp only
  rw [hp.data, hp.schema_eq hmap hkeyword]

theorem multipleOf_transcribed (hp : Replaced T .multipleOf p p') (h : p.multipleOf = .ok n) :
    ∃ n', p'.multipleOf = .ok n' ∧ Alike call call' failFast n n' := by
  obtain ⟨hpositive, text, rfl⟩ := multipleOf_cases h
  unfold multipleOf
  rw [if_neg ?_]
  · exact ⟨_, rfl, hp.alike_check (by decide) (by decide) _ _ _⟩
  · rw [hp.data, hp.schema_eq (by decide) (by decide)]
    cases hdata : p.data with
    | none => simp [hpositive hdata]
    | some r => simp

theorem pattern_transcribed (hp : Replaced T .pattern p p') (h : p.pattern = .ok n) :
    ∃ n', p'.pattern = .ok n' ∧ Alike call call' failFast n n' := by
  unfold pattern
  rw [hp.data, hp.schema_eq (by decide) (by decide)]
  rcases pattern_cases h with ⟨hdata, text, rfl⟩ | ⟨hdata, r, text, hr, rfl⟩
  · rw [if_pos hdata]
    exact ⟨_, rfl, hp.alike_check (by decide) (by decide) _ _ _⟩
  · rw [if_neg (by simp [hdata])]
    dsimp only
    rw [hr]
    exact ⟨_, rfl, hp.alike_check (by decide) (by decide) _ _ _⟩

theorem format_transcribed (hp : Replaced T .format p p') (h : p.format = .ok nodes) :
    ∃ nodes', p'.format = .ok nodes' ∧ AllAlike call call' failFast nodes nodes' := by
  unfold format at h ⊢
  rw [hp.formats, hp.options, hp.schema_eq (by decide) (by decide)]
  dsimp only at h ⊢
  cases hfound : p.env.formats.get? (p.schema.str?.getD "") with
  | some found =>
    rw [hfound] at h
    obtain rfl := Except.ok.inj h
    exact ⟨_, rfl, Alike.single (hp.alike_check (by decide) (by decide) _ _ _)⟩
  | none =>
    rw [hfound] at h
    dsimp only at h ⊢
    split at h
    · next hignored =>
      obtain rfl := Except.ok.inj h
      rw [if_pos hignored]
      exact ⟨_, rfl, .nil⟩
    · cases h

theorem required_transcribed (hp : Replaced T .required p p') (h : p.required = .ok nodes) :
    ∃ nodes', p'.required = .ok nodes' ∧ AllAlike call call' failFast nodes nodes' := by
  obtain ⟨names, text, hnames, rfl⟩ := required_cases h
  have hschema := hp.schema_eq (by decide) (by decide)
  unfold required
  rw [hschema, propertyNames_eq_ok hnames]
  exact ⟨_, rfl, alike_dataChecks fun _ => hschema⟩

/-- **What a keyword contributes and what it contributes with the references replaced are alike.** -/
theorem Makes.transcribed (t : Transcript T B lower call call' failFast) (hk : k ≠ .ref)
    (hp : Replaced T k p p') (h : p.Makes B R k nodes) :
    Gives (p'.builtin lower k) (AllAlike call call' failFast nodes) := by
  cases k with
  | ref => exact absurd rfl hk
  | multipleOf =>
    obtain ⟨n, hn, rfl⟩ := h
    obtain ⟨n', hn', halike⟩ := multipleOf_transcribed hp hn
    exact .bind (.liftExcept hn' halike) fun _ h => .pure h.single
  | pattern =>
    obtain ⟨n, hn, rfl⟩ := h
    obtain ⟨n', hn', halike⟩ := pattern_transcribed hp hn
    exact .bind (.liftExcept hn' halike) fun _ h => .pure h.single
  | format =>
    obtain ⟨nodes', hnodes', halike⟩ := format_transcribed hp h
    exact .liftExcept hnodes' halike
  | required =>
    obtain ⟨nodes', hnodes', halike⟩ := required_transcribed hp h
    exact .liftExcept hnodes' halike
  | items => exact MakesItems.transcribed t hp h
  | contains => exact MakesContains.transcribed t hp h
  | dependencies => exact MakesDependencies.transcribed t hp h
  | propertyNames => exact MakesNameSchema.transcribed t hp h
  | properties => exact MakesProperties.transcribed t hp h
  | not =>
    obtain ⟨body, text, hb, rfl⟩ := h
    have hs := hp.of_isSchema (by decide) (by decide) (t.isSchema hb)
    exact .bind (t.body hs hb _) fun _ hbody => .pure (Alike.single (.not _ _ hbody))
  | anyOf =>
    obtain ⟨branches, text, hb, rfl⟩ := h
    refine .bind (MakesBranches.transcribed t hp (by decide) (by decide) hb) fun _ hbranches => ?_
    exact .pure (Alike.single (.anyOf _ _ hbranches))
  | oneOf =>
    obtain ⟨branches, text, hb, rfl⟩ := h
    refine .bind (MakesBranches.transcribed t hp (by decide) (by decide) hb) fun _ hbranches => ?_
    exact .pure (Alike.single (.oneOf _ _ hbranches))
  | allOf =>
    exact (MakesBranches.transcribed t hp (by decide) (by decide) h).weaken fun _ hbranches =>
      .of_forall₂ hbranches
  | ifThenElse => exact MakesIfThenElse.transcribed t hp h
  | _ =>
    subst h
    exact .pure (Alike.single (hp.alike_check (by decide) (by decide) _ _ _))

end

end KeywordPlace

end JsonSchema
