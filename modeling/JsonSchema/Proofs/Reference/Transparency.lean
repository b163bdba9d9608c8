import JsonSchema.Proofs.Reference.Replacement
import Mathlib.Order.Lattice.Nat

/-!
# References can be replaced by what they refer to

`references_transparent`: a schema without `$id`s whose references are local and lead nowhere back
accepts what it accepts with all its references replaced by what they refer to.

A target is lowered once, at the place of its first use, and the references to it become calls of one
procedure.  So a body is compared with the replacement of its schema **under the assumption that calls
do what the replacements of their targets do** (`CallsMatch`), as far as a budget for replacing goes, and
this is what lowering keeps (`transcribing_guarded`): a reference takes more of the budget than its
target, and nothing is asked of procedures that are still open.  When lowering is done the assumption is
paid back by induction on the budget of calls (`calls_match`).
-/

set_option autoImplicit false

namespace JsonSchema

open Node LowerM

/-! ## Sizes of schemas -/

section

variable {T : Json → Json → Prop} {budget : Nat}

theorem forall₂_and_right {α β : Type} {R : α → β → Prop} {P : β → Prop} {xs : List α} {ys : List β}
    (h : List.Forall₂ R xs ys) (hP : ∀ y ∈ ys, P y) : List.Forall₂ (fun x y => R x y ∧ P y) xs ys := by
  induction h with
  | nil => exact .nil
  | cons hxy _ ih =>
    obtain ⟨hy, hrest⟩ := List.forall_mem_cons.mp hP
    exact .cons ⟨hxy, hy⟩ (ih hrest)

/-- The schemas in a value are no larger than the value. -/
theorem ValueInlined.sized {keyword : String} {v v' : Json} (h : ValueInlined T keyword v v')
    (hle : v'.size ≤ budget) : ValueInlined (fun s s' => T s s' ∧ s'.size ≤ budget) keyword v v' := by
  unfold ValueInlined at h ⊢
  split at h
  · next hmap =>
    rw [if_pos hmap]
    rcases h with ⟨ms, ms', rfl, rfl, hms⟩ | hleaf
    · rw [Json.size] at hle
      refine .inl ⟨ms, ms', rfl, rfl, ?_⟩
      have hsizes : ∀ m ∈ ms', m.2.size ≤ budget := fun m hm => by
        have := Json.size_le_sizeMembers hm
        omega
      exact (forall₂_and_right hms hsizes).imp fun m m' h => ⟨h.1.1, h.1.2, h.2⟩
    · exact .inr hleaf
  · next hmap =>
    rw [if_neg hmap]
    split at h
    · next hkeyword =>
      rw [if_pos hkeyword]
      rcases h with ⟨ss, ss', rfl, rfl, hss⟩ | ⟨harr, ht⟩
      · rw [Json.size] at hle
        refine .inl ⟨ss, ss', rfl, rfl, forall₂_and_right hss fun s hs => ?_⟩
        have := Json.size_le_sizeItems hs
        omega
      · exact .inr ⟨harr, ht, hle⟩
    · next hkeyword =>
      rw [if_neg hkeyword]
      exact h

theorem MembersInlined.sized {members members' : List (String × Json)}
    (h : MembersInlined T members members') (hle : Json.sizeMembers members' ≤ budget) :
    MembersInlined (fun s s' => T s s' ∧ s'.size ≤ budget) members members' :=
  (forall₂_and_right h fun _ hm => (Json.size_le_sizeMembers hm).trans hle).imp fun _ _ h =>
    ⟨h.1.1, h.1.2.sized h.2⟩

end

/-! ## What lowering keeps -/

/-- The schema is lowered to a node that does what the given node does, without calls. -/
def Environment.Matches (env : Environment) (call : Nat → Location → Run) (failFast : Bool) (node : Node)
    (s' : Json) : Prop :=
  ∀ documents budget position, s'.size ≤ budget →
    Gives (lowerSchema (env.among documents) budget s' position)
      (Alike call (fun _ _ => Run.stuck) failFast node)

/-- A target that a local reference in a document leads to. -/
def LocalTarget (root : Json) (target : Target) : Prop :=
  ∃ reference, IsLocalReference reference ∧
    (Documents.alone root).resolve defaultBase reference = .ok target

/-- The targets are schemas of the document, and a call does what the replacement of its target does, as
far as a budget for replacing goes. -/
def CallsMatch (env : Environment) (root : Json) (n : Nat) (targets : List Target)
    (call : Nat → Location → Run) (failFast : Bool) : Prop :=
  ∀ (i : Nat) (target : Target), targets[i]? = some target →
    LocalTarget root target ∧ target.schema.isSchema = true ∧
      ∀ k < n, ∀ t', Json.inline? root k target.schema = some t' → env.Matches call failFast (.call i) t'

/-- The body of a schema does what the replacement of the schema does, if calls do. -/
def Transcribes (env : Environment) (root : Json) (targets : List Target) (s : Json) (node : Node) : Prop :=
  s.isSchema = true ∧ ∀ n s', Json.inline? root n s = some s' → ∀ call failFast,
    CallsMatch env root n targets call failFast → env.Matches call failFast node s'

section

variable {env : Environment} {root : Json} {n : Nat} {targets more : List Target}
  {call : Nat → Location → Run} {failFast : Bool} {s : Json} {node : Node}

theorem CallsMatch.mono {m : Nat} (hmn : m ≤ n) (h : CallsMatch env root n targets call failFast) :
    CallsMatch env root m targets call failFast := fun i target htarget =>
  let ⟨hlocal, hschema, hmatch⟩ := h i target htarget
  ⟨hlocal, hschema, fun k hk => hmatch k (Nat.lt_of_lt_of_le hk hmn)⟩

theorem CallsMatch.of_append (h : CallsMatch env root n (targets ++ more) call failFast) :
    CallsMatch env root n targets call failFast := by
  intro i target htarget
  refine h i target ?_
  obtain ⟨hi, -⟩ := List.getElem?_eq_some_iff.mp htarget
  rw [List.getElem?_append_left hi, htarget]

/-- New procedures do not change what is known of bodies. -/
theorem Transcribes.append (h : Transcribes env root targets s node) :
    Transcribes env root (targets ++ more) s node :=
  ⟨h.1, fun n s' hs' call failFast hcalls => h.2 n s' hs' call failFast hcalls.of_append⟩

end

/-! ## What a reference leads to -/

/-- Every reference that the document leads to is `#`, or a JSON pointer behind `#`. -/
def ReferencesLocal (root : Json) : Prop :=
  ∀ members reference, Reached root (.obj members) → reference? members = some reference →
    IsLocalReference reference

section

variable {root : Json} {documents : Documents} {members : List (String × Json)} {target : Target}

/-- The document as a whole, also by the empty text. -/
theorem resolve_empty (hroot : documents.get? defaultBase.text = some root)
    (h : documents.resolve defaultBase "" = .ok target) :
    (Documents.alone root).resolve defaultBase "#" = .ok target ∧ target.schema = root := by
  have hempty : resolveUri defaultBase "" = .ok defaultBase := rfl
  have hhash : resolveUri defaultBase "#" = .ok { defaultBase with fragment := some [] } := rfl
  have hwhole : ∀ {documents : Documents} {uri : Uri} {reference : String},
      documents.get? defaultBase.text = some root → resolveUri defaultBase reference = .ok uri →
      uri.withoutFragment = defaultBase → uri.isAnchored = false → uri.fragment.getD [] = [] →
      documents.resolve defaultBase reference =
        .ok ⟨root, defaultBase, defaultBase.text ++ "#" ++ "", ""⟩ := by
    intro documents uri reference hroot huri hdocument hanchor hfragment
    unfold Documents.resolve
    simp only [huri, bind, Except.bind, hanchor, hdocument, hroot, hfragment]
    rfl
  rw [hwhole hroot hempty rfl rfl rfl] at h
  obtain rfl := Except.ok.inj h
  exact ⟨hwhole (Documents.get?_alone root) hhash rfl rfl rfl, rfl⟩

/-- The text that a rule for references takes is the object's reference, or empty. -/
theorem reference_eq : (Rule.ofBuiltin .ref).reference members = (reference? members).getD "" := by
  show ((members.lookup "$ref").getD .null).str?.getD "" = ((members.lookup "$ref").bind Json.str?).getD ""
  cases members.lookup "$ref" <;> rfl

/-- What the reference of a reached object leads to is a local target, and reached. -/
theorem reached_target (hlocal : ReferencesLocal root)
    (hroot : documents.get? defaultBase.text = some root) (hmembers : Reached root (.obj members))
    (h : documents.resolve defaultBase ((Rule.ofBuiltin .ref).reference members) = .ok target) :
    LocalTarget root target ∧ (target.schema.isSchema = true → Reached root target.schema) := by
  rw [reference_eq] at h
  cases href : reference? members with
  | none =>
    rw [href] at h
    obtain ⟨htarget, hschema⟩ := resolve_empty hroot h
    refine ⟨⟨"#", ⟨[], rfl, fun c hc => by cases hc⟩, htarget⟩, fun _ => ?_⟩
    rw [hschema]
    exact .refl
  | some reference =>
    rw [href, Option.getD_some] at h
    have hreference := hlocal members reference hmembers href
    rw [Documents.resolve_local hroot hreference] at h
    refine ⟨⟨reference, hreference, h⟩, fun hschema => hmembers.tail (.target ?_)⟩
    rw [refTarget?, href, Option.bind_some, Json.target?, h]
    exact if_pos hschema

end

/-! ## One schema -/

section

variable {env : Environment} {root : Json} (hids : root.WithoutIds)
  (hlocal : ReferencesLocal root)
  (hr : env.registry.ReadsDraft7 root) (hroot : env.documents.get? defaultBase.text = some root)

/-- What lowering comes to, beside values that are no schemas. -/
def Visits (root : Json) (s : Json) (position : Position) : Prop :=
  position.base = defaultBase ∧ (s.isSchema = true → Reached root s)

variable {members : List (String × Json)} {position : Position} {procedures : List Procedure} {node : Node}

/-- The bodies of schemas for a list of procedures. -/
def transcribing (env : Environment) (root : Json) (procedures : List Procedure) : BodyRel :=
  fun s _ node => Transcribes env root (procedures.map (·.target)) s node

include hids hlocal hroot

/-- A procedure that a reference of the object leads to is one for the object's target. -/
theorem Refers.refTarget? {reference : String} {n i : Nat} {call : Nat → Location → Run} {failFast : Bool}
    (hmembers : Reached root (.obj members)) (href : members.lookup "$ref" = some (.str reference))
    (hbase : position.base = defaultBase)
    (hcalls : CallsMatch env root n (procedures.map (·.target)) call failFast)
    (h : Refers procedures env.documents position reference i) :
    ∃ t, refTarget? root members = some t ∧ ∀ k < n, ∀ t', Json.inline? root k t = some t' →
      env.Matches call failFast (.call i) t' := by
  obtain ⟨target, q, htarget, hq, hkey, -⟩ := h
  have href' : reference? members = some reference := by rw [reference?, href]; rfl
  have hreference := hlocal members reference hmembers href'
  rw [hbase, Documents.resolve_local hroot hreference] at htarget
  have hentry : (procedures.map (·.target))[i]? = some q.target := by rw [List.getElem?_map, hq]; rfl
  obtain ⟨⟨reference', hreference', hq'⟩, hschema, hmatch⟩ := hcalls i q.target hentry
  have halone := Documents.get?_alone root
  have hsame : q.target = target :=
    (local_target hids hreference' rfl halone hq').2.eq_of_key
      (local_target hids hreference rfl halone htarget).2 hkey
  refine ⟨q.target.schema, ?_, hmatch⟩
  rw [JsonSchema.refTarget?, href', Option.bind_some, Json.target?, htarget]
  dsimp only
  rw [← hsame]
  exact if_pos hschema

/-- An object with a reference does what the replacement of its target does. -/
theorem ObjectMakes.matches_target {target s' : Json} {n : Nat} {call : Nat → Location → Run}
    {failFast : Bool} (hr : env.registry.ReadsDraft7 root) (hmembers : Reached root (.obj members))
    (hbase : position.base = defaultBase)
    (h : ObjectMakes (transcribing env root procedures) (Refers procedures env.documents) env members
      position node)
    (htarget : refTarget? root members = some target) (hs' : Json.inline? root n target = some s')
    (hcalls : CallsMatch env root (n + 1) (procedures.map (·.target)) call failFast) :
    env.Matches call failFast node s' := by
  have hsome : (members.lookup "$ref").isSome := by
    obtain ⟨reference, href, -⟩ := Option.bind_eq_some_iff.mp htarget
    obtain ⟨v, hv, -⟩ := Option.bind_eq_some_iff.mp href
    rw [hv]
    rfl
  obtain ⟨reference, i, href, hi, hlike⟩ := h.calls hr hmembers hsome
  have hmatch : ∀ i, Refers procedures env.documents position reference i →
      env.Matches call failFast (.call i) s' := by
    intro i hi
    obtain ⟨t, ht, hmatch⟩ := hi.refTarget? hids hlocal hroot hmembers href hbase hcalls
    obtain rfl := Option.some.inj (htarget.symm.trans ht)
    exact hmatch n (Nat.lt_succ_self n) s' hs'
  intro documents budget position' hle
  obtain ⟨n', hlower, -⟩ := hmatch i hi documents budget position' hle
  refine ⟨n', hlower, hlike _ _ _ _ fun j hj => ?_⟩
  -- lowering the replacement answers once, so that all calls are like the one answer
  obtain ⟨n'', hlower', halike⟩ := hmatch j hj documents budget position' hle
  rw [hlower] at hlower'
  have hsame : n'' = n' := (LowerM.pure_eq_ok.mp (congrFun hlower' [])).1
  exact hsame ▸ halike

/-- An object without a reference that leads anywhere does what the object with its members replaced
    does. -/
theorem ObjectMakes.matches_members {members' : List (String × Json)} {n : Nat}
    {call : Nat → Location → Run} {failFast : Bool} (hr : env.registry.ReadsDraft7 root)
    (hmembers : Reached root (.obj members)) (hbase : position.base = defaultBase)
    (h : ObjectMakes (transcribing env root procedures) (Refers procedures env.documents) env members
      position node)
    (htarget : refTarget? root members = none)
    (hm : MembersInlined (fun s s' => Json.inline? root n s = some s') members members')
    (hcalls : CallsMatch env root (n + 1) (procedures.map (·.target)) call failFast) :
    env.Matches call failFast node (.obj members') := by
  have hnone : members.lookup "$ref" = none := by
    by_contra hsome
    obtain ⟨reference, i, href, hi, -⟩ := h.calls hr hmembers (Option.isSome_iff_ne_none.mpr hsome)
    obtain ⟨t, ht, -⟩ := hi.refTarget? hids hlocal hroot hmembers href hbase hcalls
    cases htarget.symm.trans ht
  have hid : ∀ base, schemaBase (.obj members') base = .ok base := by
    intro base
    have hid := hids.inside hmembers.inside _ (.here _)
    unfold idOf? Json.get? at hid
    unfold schemaBase idOf? Json.get?
    dsimp only at hid ⊢
    rw [hm.lookup_eq (by decide) (by decide), hid]
  intro documents budget position' hle
  rw [Json.size] at hle
  obtain ⟨budget, rfl⟩ : ∃ b, budget = b + 1 := Nat.exists_eq_succ_of_ne_zero (by omega)
  rw [lowerSchema_obj (hid _)]
  have t : Transcript (fun s s' => Json.inline? root n s = some s' ∧ s'.size ≤ budget)
      (transcribing env root procedures) (lowerSchema (env.among documents) budget) call
      (fun _ _ => Run.stuck) failFast := by
    refine ⟨fun ht => inline?_eq_self ht.1, fun ht => inline?_isSchema n ht.1, fun hb => hb.1,
      fun ht hb position' => hb.2 n _ ht.1 call failFast (hcalls.mono (Nat.le_succ n)) _ _ _ ht.2,
      fun ht position' => ?_, fun ht position' => ?_⟩
    · obtain ⟨b, rfl⟩ : ∃ b, budget = b + 1 := Nat.exists_eq_succ_of_ne_zero (Nat.ne_of_gt ht.2)
      rfl
    · obtain ⟨b, rfl⟩ : ∃ b, budget = b + 1 := Nat.exists_eq_succ_of_ne_zero (Nat.ne_of_gt ht.2)
      exact ⟨_, rfl⟩
  exact h.transcribed hr hmembers hnone t (hm.sized (by omega)) _

/-- **One schema**: whatever it can be lowered to does what its replacement does. -/
theorem SchemaMakes.transcribes {s : Json} (hr : env.registry.ReadsDraft7 root)
    (hvisit : Visits root s position)
    (h : SchemaMakes (transcribing env root procedures) (Refers procedures env.documents) env s position
      node) : Transcribes env root (procedures.map (·.target)) s node := by
  cases h with
  | always =>
    refine ⟨rfl, fun n s' hs' call failFast _ documents budget position' hle => ?_⟩
    cases n with
    | zero => cases hs'
    | succ n =>
      obtain rfl := Option.some.inj hs'
      cases budget with
      | zero => exact absurd hle (by decide)
      | succ budget => exact .pure .pass
  | never =>
    refine ⟨rfl, fun n s' hs' call failFast _ documents budget position' hle => ?_⟩
    cases n with
    | zero => cases hs'
    | succ n =>
      obtain rfl := Option.some.inj hs'
      cases budget with
      | zero => exact absurd hle (by decide)
      | succ budget => exact .pure (.reject _ _)
  | @object members position base node hbase hmakes =>
    obtain ⟨hposition, hreached⟩ := hvisit
    have hmembers : Reached root (.obj members) := hreached rfl
    have hinside := hids.inside hmembers.inside
    have hdefault : base = defaultBase := by
      rw [schemaBase_of_withoutIds hinside, hposition] at hbase
      exact (Except.ok.inj hbase).symm
    refine ⟨rfl, fun n s' hs' call failFast hcalls => ?_⟩
    cases n with
    | zero => cases hs'
    | succ n =>
      rcases inline?_cases hs' with ⟨_, target, heq, htarget, hs'⟩ |
        ⟨_, members', heq, rfl, htarget, hm⟩ | ⟨hleaf, -⟩
      · cases heq
        exact hmakes.matches_target hids hlocal hroot hr hmembers hdefault htarget hs' hcalls
      · cases heq
        exact hmakes.matches_members hids hlocal hroot hr hmembers hdefault htarget hm hcalls
      · cases hleaf

end

/-! ## The whole of lowering -/

section

variable {env : Environment} {root : Json} {members : List (String × Json)} {position : Position}

/-- A keyword applies schemas that the object leads to. -/
theorem KeywordPlace.Applies.leads {k : BuiltinKeyword} {data : Option DataRef} {s : Json}
    (h : ((Rule.ofBuiltin k).place env members position data).Applies k s) (hs : s.isSchema = true)
    (hnone : refTarget? root members = none) : Leads root (.obj members) s := by
  rcases h.hasSubschema rfl with rfl | hinside
  · cases hs
  · cases hinside with
    | single hkeyword hlookup => exact .single (m := (_, s)) hnone (mem_of_lookup hlookup) hkeyword
    | listed hkeyword hlookup hmem => exact .listed hnone (mem_of_lookup hlookup) hkeyword hmem
    | named hkeyword hlookup hm => exact .named hnone (mem_of_lookup hlookup) hkeyword hm

/-- What is known of the entries while lowering goes on. -/
def EntriesTranscribed (env : Environment) (root : Json) (procedures : List Procedure) : Prop :=
  ∀ (i : Nat) (q : Procedure), procedures[i]? = some q → LocalTarget root q.target ∧
    (q.target.schema.isSchema = true → Reached root q.target.schema) ∧
    ∀ body, q.body = some body → Transcribes env root (procedures.map (·.target)) q.target.schema body

/-- The rules that an object is read by are for keywords of draft-07; with a reference, for that alone. -/
theorem Environment.Reads.builtin {rule : Rule} (hr : env.registry.ReadsDraft7 root)
    (hmembers : Reached root (.obj members)) (h : env.Reads members rule) :
    ∃ k, rule = .ofBuiltin k ∧ (k = .ref ∨ members.lookup "$ref" = none) := by
  obtain ⟨group, hgroup, hrule⟩ := h
  cases href : members.lookup "$ref" with
  | none =>
    obtain ⟨hmem, hpresent⟩ := List.mem_filter.mp hrule
    rw [Bool.and_eq_true] at hpresent
    obtain ⟨k, hk, -⟩ := hr.builtin members hmembers group hgroup rule hmem hpresent.1
    exact ⟨k, hk, .inr rfl⟩
  | some v =>
    have honly : env.onlyRef members = true := by rw [Environment.onlyRef, href, hr.hasRule]; rfl
    rw [honly] at hrule
    exact ⟨.ref, (hr.reads_ref hmembers group hgroup rule hrule).1, .inl rfl⟩

/-- The rules of a reached object apply schemas that the object leads to. -/
theorem Environment.Reads.leads {rule : Rule} {k : BuiltinKeyword} {data : Option DataRef} {s : Json}
    (hr : env.registry.ReadsDraft7 root) (hmembers : Reached root (.obj members)) (h : env.Reads members rule)
    (himplementation : rule.implementation = .builtin k)
    (happlies : (rule.place env members position data).Applies k s) (hs : s.isSchema = true) :
    Leads root (.obj members) s := by
  obtain ⟨k, rfl, href⟩ := h.builtin hr hmembers
  cases himplementation
  refine happlies.leads hs ?_
  rcases href with rfl | hnone
  · exact happlies.elim
  · rw [refTarget?, reference?, hnone]
    rfl

section

variable (hids : root.WithoutIds)
  (hlocal : ReferencesLocal root)
  (hr : env.registry.ReadsDraft7 root) (hroot : env.documents.get? defaultBase.text = some root)

include hids hlocal hr hroot

/-- Lowering a reached object comes to what the object leads to. -/
theorem Environment.Hands.visits {s : Json} {at' : Position} (hmembers : Reached root (.obj members))
    (hbase : position.base = defaultBase) (h : env.Hands members position s at') : Visits root s at' := by
  cases h with
  | applied hreads himplementation happlies hat =>
    exact ⟨hat.trans hbase, fun hs => hmembers.tail (hreads.leads hr hmembers himplementation happlies hs)⟩
  | @referred rule target hreads himplementation htarget =>
    obtain ⟨k, rfl, -⟩ := hreads.builtin hr hmembers
    cases himplementation
    rw [hbase] at htarget
    obtain ⟨⟨reference, hreference, hresolved⟩, hreached⟩ := reached_target hlocal hroot hmembers htarget
    exact ⟨(local_target hids hreference rfl (Documents.get?_alone root) hresolved).2.base, hreached⟩
  | expanded hreads himplementation _ _ =>
    obtain ⟨k, rfl, -⟩ := hreads.builtin hr hmembers
    cases himplementation

/-- **What lowering keeps** in a document with local references and no `$id`s. -/
theorem transcribing_guarded :
    GuardedInvariant env (Visits root) (EntriesTranscribed env root) (transcribing env root) where
  handed := by
    intro members position base hvisit hbase s at' hhands
    have hmembers := hvisit.2 rfl
    rw [schemaBase_of_withoutIds (hids.inside hmembers.inside), hvisit.1] at hbase
    exact hhands.visits hids hlocal hr hroot hmembers (Except.ok.inj hbase).symm
  opened := by
    intro members position base rule target procedures hvisit hbase hreads himplementation htarget hi _
    have hmembers := hvisit.2 rfl
    rw [schemaBase_of_withoutIds (hids.inside hmembers.inside), hvisit.1] at hbase
    obtain rfl := Except.ok.inj hbase
    obtain ⟨k, rfl, -⟩ := hreads.builtin hr hmembers
    cases himplementation
    obtain ⟨hlocalTarget, hreached⟩ := reached_target hlocal hroot hmembers htarget
    intro i q hq
    rw [List.map_append]
    rcases List.mem_append.mp (List.mem_of_getElem? hq) with hold | hnew
    · obtain ⟨j, hj⟩ := List.getElem?_of_mem hold
      obtain ⟨hl, hv, hbody⟩ := hi j q hj
      exact ⟨hl, hv, fun body hb => (hbody body hb).append⟩
    · obtain rfl := List.mem_singleton.mp hnew
      exact ⟨hlocalTarget, hreached, fun body hb => by cases hb⟩
  filled := by
    intro procedures i q body hi hq _ hbody j r' hr'
    rw [map_target_fill]
    rw [List.getElem?_modify] at hr'
    obtain ⟨r, hr, rfl⟩ := Option.map_eq_some_iff.mp hr'
    obtain ⟨hl, hv, hold⟩ := hi j r hr
    by_cases hij : i = j
    · subst hij
      obtain rfl := Option.some.inj (hq.symm.trans hr)
      rw [if_pos rfl]
      refine ⟨hl, hv, fun b hb => ?_⟩
      obtain rfl := Option.some.inj hb
      exact hbody
    · rw [if_neg hij]
      exact ⟨hl, hv, hold⟩
  schema := fun hvisit h => h.transcribes hids hlocal hroot hr hvisit

end

end

/-! ## Calls -/

section

variable {env : Environment} {root : Json} {procedures : List Procedure} {failFast : Bool}

/-- The least budget that replacing the references of a schema takes. -/
noncomputable def inlineCost (root s : Json) : Nat := sInf {k | (Json.inline? root k s).isSome}

theorem inlineCost_le {k : Nat} {s s' : Json} (h : Json.inline? root k s = some s') :
    inlineCost root s ≤ k := Nat.sInf_le (show (Json.inline? root k s).isSome by rw [h]; rfl)

theorem inline?_inlineCost {k : Nat} {s s' : Json} (h : Json.inline? root k s = some s') :
    Json.inline? root (inlineCost root s) s = some s' := by
  have hsome : (Json.inline? root (inlineCost root s) s).isSome :=
    Nat.sInf_mem (s := {k | (Json.inline? root k s).isSome}) ⟨k, show (Json.inline? root k s).isSome by rw [h]; rfl⟩
  obtain ⟨t, ht⟩ := Option.isSome_iff_exists.mp hsome
  rw [ht, Inlined.unique ⟨_, ht⟩ ⟨k, h⟩]

/-- The targets whose references are replaced with less than a budget. -/
noncomputable def cheaper (root : Json) (targets : List Target) (n : Nat) : List Target :=
  targets.filter fun target => inlineCost root target.schema < n

theorem length_cheaper_lt {targets : List Target} {target : Target} {n : Nat} (hmem : target ∈ targets)
    (hlt : inlineCost root target.schema < n) :
    (cheaper root targets (inlineCost root target.schema)).length < (cheaper root targets n).length := by
  have hnested : cheaper root targets (inlineCost root target.schema) =
      (cheaper root targets n).filter fun other =>
        inlineCost root other.schema < inlineCost root target.schema := by
    unfold cheaper
    rw [List.filter_filter]
    refine List.filter_congr fun other _ => ?_
    rw [← Bool.decide_and]
    exact decide_eq_decide.mpr ⟨fun h => ⟨h, h.trans hlt⟩, fun h => h.1⟩
  rw [hnested, List.length_filter_lt_length_iff_exists]
  exact ⟨target, List.mem_filter.mpr ⟨hmem, by simpa using hlt⟩, by simp⟩

/-- **Calls do what the replacements of their targets do**: the call of a target comes to calls of
    targets that take less, so that a budget of calls suffices that counts the targets. -/
theorem calls_match {program : Program} (hi : EntriesTranscribed env root procedures)
    (hfilled : FilledFrom 0 procedures)
    (hprogram : program.procedures = procedures.map (·.body.getD .pass)) :
    ∀ budget n, (cheaper root (procedures.map (·.target)) n).length ≤ budget →
      CallsMatch env root n (procedures.map (·.target)) (program.call failFast budget) failFast := by
  have hentry : ∀ (i : Nat) (target : Target), (procedures.map (·.target))[i]? = some target →
      LocalTarget root target ∧ ∃ body, program.procedures[i]? = some body ∧
        Transcribes env root (procedures.map (·.target)) target.schema body := by
    intro i target htarget
    rw [List.getElem?_map] at htarget
    obtain ⟨q, hq, rfl⟩ := Option.map_eq_some_iff.mp htarget
    obtain ⟨body, hbody⟩ := Option.isSome_iff_exists.mp (hfilled i q (Nat.zero_le i) hq)
    obtain ⟨hlocal, -, htranscribes⟩ := hi i q hq
    refine ⟨hlocal, body, ?_, htranscribes body hbody⟩
    rw [hprogram, List.getElem?_map, hq, Option.map_some, hbody]
    rfl
  intro budget
  induction budget with
  | zero =>
    intro n hcount i target htarget
    obtain ⟨hlocal, body, -, hschema, -⟩ := hentry i target htarget
    refine ⟨hlocal, hschema, fun k hk t' ht' => ?_⟩
    have := length_cheaper_lt (List.mem_of_getElem? htarget)
      (Nat.lt_of_le_of_lt (inlineCost_le ht') hk)
    omega
  | succ budget ih =>
    intro n hcount i target htarget
    obtain ⟨hlocal, body, hbody, hschema, htranscribes⟩ := hentry i target htarget
    refine ⟨hlocal, hschema, fun k hk t' ht' => ?_⟩
    have hless := length_cheaper_lt (List.mem_of_getElem? htarget)
      (Nat.lt_of_le_of_lt (inlineCost_le ht') hk)
    have hmatches := htranscribes _ t' (inline?_inlineCost ht') _ failFast (ih _ (by omega))
    intro documents lowering position hle
    refine (hmatches documents lowering position hle).weaken fun n' halike l => ?_
    have hcall : run (program.call failFast (budget + 1)) failFast (.call i) l =
        run (program.call failFast budget) failFast body l := by
      rw [run, Program.call, hbody]
    rw [hcall]
    exact halike l

end

/-! ## References are transparent -/

/-- The program of a document does what the replacement of the document does, on every value. -/
theorem lowered_matches {env : Environment} {schema inlined : Json} {root : Node}
    {procedures : List Procedure} {budget n : Nat} (hids : schema.WithoutIds)
    (hlocal : ReferencesLocal schema) (hr : env.registry.ReadsDraft7 schema)
    (hroot : env.documents.get? defaultBase.text = some schema)
    (h : lowerSchema env budget schema ⟨"#", "", 0, defaultBase, 0⟩ [] = .ok (root, procedures))
    (hinlined : Json.inline? schema n schema = some inlined) (failFast : Bool) (data : Json) :
    let program := Program.ofLowered (root, procedures)
    env.Matches (program.call failFast (program.callBudget data)) failFast root inlined := by
  have hempty : EntriesTranscribed env schema [] := fun i q hq => by cases hq
  obtain ⟨hentries, -, htranscribes⟩ := lowerSchema_made_of_guarded
    (transcribing_guarded hids hlocal hr hroot) budget schema _ ⟨rfl, fun _ => .refl⟩ _ _ _ hempty h
  have hnone : FilledFrom 0 [] := fun i q _ hq => by cases hq
  obtain ⟨hfilled, -, -⟩ := lowerSchema_fills budget 0 schema _ _ _ _ hnone h
  refine (htranscribes procedures List.prefix_rfl).2 n inlined hinlined _ failFast ?_
  refine calls_match hentries hfilled rfl _ n ?_
  -- the budget of a run counts the procedures, and more
  calc (cheaper schema (procedures.map (·.target)) n).length
      ≤ (procedures.map (·.target)).length := List.length_filter_le ..
    _ = (Program.ofLowered (root, procedures)).procedures.length := by simp [Program.ofLowered]
    _ ≤ (Program.ofLowered (root, procedures)).callBudget data :=
        Nat.le_mul_of_pos_right _ (Nat.succ_pos _)

/-- **References are transparent**: if a schema without `$id`s, whose references are local and lead
    nowhere back, compiles, so does the schema with all its references replaced by what they refer to,
    and accepts the same values. -/
theorem references_transparent {s : Surroundings} {schema : Json} {validator : Validator}
    (hids : schema.WithoutIds) (hlocal : ReferencesLocal schema) (hacyclic : ReferencesAcyclic schema)
    (hr : s.registry.ReadsDraft7 schema) (h : compileSchema s schema = .ok validator) :
    (∃ inlined, Inlined schema schema inlined) ∧
      ∀ inlined, Inlined schema schema inlined →
        ∃ validator', compileSchema s inlined = .ok validator' ∧
          ∀ data, validator'.isValid data = validator.isValid data := by
  refine ⟨exists_inlined hacyclic .refl, fun inlined ⟨budget, hinlined⟩ => ?_⟩
  obtain ⟨⟨root, procedures⟩, hlowered, rfl⟩ := compileSchema_eq_ok.mp h
  obtain ⟨base, documents, hbase, hdocuments, hlower⟩ := lowerProgram_eq_ok.mp hlowered
  rw [schemaBase_of_withoutIds hids] at hbase
  obtain rfl := Except.ok.inj hbase
  rw [Documents.visibleFrom_of_withoutIds hids] at hdocuments
  cases hcache : Documents.ofCache s.cache with
  | error e =>
    rw [hcache] at hdocuments
    cases hdocuments
  | ok cached =>
    rw [hcache] at hdocuments
    obtain rfl := Except.ok.inj hdocuments
    have hroot : (cached.set defaultBase.text schema).get? defaultBase.text = some schema := by
      rw [Table.get?_set, if_pos rfl]
    have hmatches := lowered_matches hids hlocal hr hroot hlower hinlined
    -- the answer of lowering the replacement is the same for all values
    obtain ⟨root', hlower', -⟩ := hmatches true .null (cached.set defaultBase.text inlined) _
      ⟨"#", "", 0, defaultBase, 0⟩ (size_lt_loweringBudget ..).le
    have hids' := inline?_withoutIds hids budget hinlined hids
    refine ⟨_, compileSchema_eq_ok.mpr ⟨(root', []), lowerProgram_eq_ok.mpr ⟨defaultBase,
      cached.set defaultBase.text inlined, schemaBase_of_withoutIds hids' _, ?_, ?_⟩, rfl⟩, fun data => ?_⟩
    · rw [Documents.visibleFrom_of_withoutIds hids', hcache]
      rfl
    · exact congrFun hlower' []
    · obtain ⟨root'', hlower'', halike⟩ := hmatches true data (cached.set defaultBase.text inlined) _
        ⟨"#", "", 0, defaultBase, 0⟩ (size_lt_loweringBudget ..).le
      rw [hlower'] at hlower''
      obtain rfl : root'' = root' := (LowerM.pure_eq_ok.mp (congrFun hlower'' [])).1
      have hstuck : (Program.ofLowered (root'', [])).call true
          ((Program.ofLowered (root'', [])).callBudget data) = fun _ _ => Run.stuck := by
        have hnone : (Program.ofLowered (root'', [])).callBudget data = 0 := Nat.zero_mul _
        rw [hnone]
        rfl
      refine Validator.isValid_eq_of_alike ?_
      dsimp only
      rw [hstuck]
      exact halike

/-- A name, where it is defined and where it is referred to. -/
def nameSchema : Json := .obj [("type", "string")]

def nameRef : Json := .obj [("$ref", "#/definitions/name")]

def named : Json := .obj [
  ("definitions", .obj [("name", nameSchema)]),
  ("properties", .obj [("first", nameRef)])]

/-- The document leads to the name and to the reference, which leads to the name. -/
theorem named_leads {s t : Json} (hs : s = named ∨ s = nameRef ∨ s = nameSchema) (h : Leads named s t) :
    (s = named ∧ (t = nameRef ∨ t = nameSchema)) ∨ (s = nameRef ∧ t = nameSchema) := by
  rcases hs with rfl | rfl | rfl
  · refine .inl ⟨rfl, ?_⟩
    cases h with
    | target h => cases h
    | single _ hm hk =>
      simp only [List.mem_cons, List.not_mem_nil, or_false] at hm
      rcases hm with rfl | rfl <;> exact absurd hk (by decide)
    | listed _ hm _ _ => simp [nameSchema, nameRef] at hm
    | named _ hm _ hs =>
      simp only [List.mem_cons, List.not_mem_nil, or_false, Prod.mk.injEq, Json.obj.injEq] at hm
      rcases hm with ⟨rfl, rfl⟩ | ⟨rfl, rfl⟩
      · exact .inr (List.mem_singleton.mp hs ▸ rfl)
      · exact .inl (List.mem_singleton.mp hs ▸ rfl)
  · refine .inr ⟨rfl, ?_⟩
    cases h with
    | target h => exact (Option.some.inj h).symm
    | single h _ _ => cases h
    | listed h _ _ _ => cases h
    | named h _ _ _ => cases h
  · cases h with
    | target h => cases h
    | single _ hm hk =>
      obtain rfl := List.mem_singleton.mp hm
      exact absurd hk (by decide)
    | listed _ hm _ _ => simp at hm
    | named _ hm _ _ => simp at hm

theorem named_reached {s : Json} (h : Reached named s) : s = named ∨ s = nameRef ∨ s = nameSchema := by
  refine h.of_closed (P := fun s => s = named ∨ s = nameRef ∨ s = nameSchema) (.inl rfl) ?_
  intro s t hs hlead
  rcases named_leads hs hlead with ⟨-, rfl | rfl⟩ | ⟨-, rfl⟩
  · exact .inr (.inl rfl)
  · exact .inr (.inr rfl)
  · exact .inr (.inr rfl)

theorem named_withoutIds : named.WithoutIds := by
  simp [named, nameSchema, nameRef, withoutIds_obj, withoutIds_str, List.lookup_cons]

theorem named_local : ReferencesLocal named := by
  intro members reference hmembers href
  rcases named_reached hmembers with h | h | h
  · cases h
    cases href
  · cases h
    obtain rfl := Option.some.inj href
    exact ⟨_, rfl, fun c hc => (Option.some.inj hc).symm⟩
  · cases h
    cases href

/-- The document stands above the reference, and the reference above the name. -/
def nameRank : Json → Nat
  | .obj [("$ref", _)] => 1
  | .obj [_, _] => 2
  | _ => 0

theorem named_acyclic : ReferencesAcyclic named := by
  refine .of_rank nameRank fun s t hs hlead => ?_
  rcases named_leads (named_reached hs) hlead with ⟨rfl, rfl | rfl⟩ | ⟨rfl, rfl⟩ <;> decide

/-- With its reference replaced, the document accepts what it accepts with it. -/
theorem named_transparent : ∃ validator, compileSchema .plain named = .ok validator ∧
    ∃ validator', compileSchema .plain (.obj [
        ("definitions", .obj [("name", nameSchema)]),
        ("properties", .obj [("first", nameSchema)])]) = .ok validator' ∧
      ∀ data, validator'.isValid data = validator.isValid data := by
  have hcompiles : (compileSchema .plain named).isOk = true := by decide +kernel
  cases hcompiled : compileSchema .plain named with
  | error e =>
    rw [hcompiled] at hcompiles
    cases hcompiles
  | ok validator =>
    have htransparent := references_transparent (s := .plain) named_withoutIds named_local named_acyclic
      (Registry.withBuiltins_readsDraft7 named) hcompiled
    exact ⟨validator, rfl, htransparent.2 _ ⟨3, rfl⟩⟩

end JsonSchema
