import JsonSchema.Proofs.Draft7.Semantics
import JsonSchema.Proofs.Reference.Local
import JsonSchema.Store.StrictMode
import Mathlib.Data.Set.Finite.Lattice
import Mathlib.Data.Fintype.EquivFin

/-!
# Schemas with their references replaced

`Json.inline?` replaces every object that refers to a schema by the schema it refers to, at every place
where a schema can stand, and goes on inside the replacement.  What can stand as a schema, and where, is
taken from strict mode, which walks over the same places.

Replacing ends unless a schema leads back to itself.  `Leads` is the graph of this: from a schema to the
schemas inside it, and from an object with a reference to the target alone.  Where it has no cycle, every
schema has a replacement (`exists_inlined`), and only one (`Inlined.unique`).
-/

set_option autoImplicit false

namespace JsonSchema

/-- Whether a value is of a type that schemas have. -/
def Json.isSchema : Json → Bool
  | .bool _ | .obj _ => true
  | _ => false

/-! ## The graph of references -/

/-- The schema in a document that a reference from the document leads to. -/
def Json.target? (root : Json) (reference : String) : Option Json :=
  match (Documents.alone root).resolve defaultBase reference with
  | .ok target => if target.schema.isSchema then some target.schema else none
  | .error _ => none

/-- The reference of an object. -/
def reference? (members : List (String × Json)) : Option String :=
  (members.lookup "$ref").bind Json.str?

/-- The schema that an object refers to. -/
def refTarget? (root : Json) (members : List (String × Json)) : Option Json :=
  (reference? members).bind root.target?

/-- A schema of a document leads to the schema it refers to, or to those inside it if it refers to
none. -/
inductive Leads (root : Json) : Json → Json → Prop where
  | target {members : List (String × Json)} {s : Json} : refTarget? root members = some s →
      Leads root (.obj members) s
  | single {members : List (String × Json)} {m : String × Json} : refTarget? root members = none →
      m ∈ members → m.1 ∈ schemaKeywords → Leads root (.obj members) m.2
  | listed {members : List (String × Json)} {keyword : String} {ss : List Json} {s : Json} :
      refTarget? root members = none → (keyword, .arr ss) ∈ members → keyword ∈ schemaKeywords →
      s ∈ ss → Leads root (.obj members) s
  | named {members ms : List (String × Json)} {keyword : String} {m : String × Json} :
      refTarget? root members = none → (keyword, .obj ms) ∈ members → keyword ∈ schemaMapKeywords →
      m ∈ ms → Leads root (.obj members) m.2

/-- Nothing that a document leads to leads back to itself. -/
def ReferencesAcyclic (root : Json) : Prop :=
  ∀ s, Relation.ReflTransGen (Leads root) root s → ¬ Relation.TransGen (Leads root) s s

/-! ## Replacing references -/

section

variable (inline : Json → Option Json)

/-- The value of a keyword with the schemas in it replaced. -/
def inlineValue (keyword : String) (value : Json) : Option Json :=
  if schemaMapKeywords.contains keyword then
    match value with
    | .obj ms => (ms.mapM fun m => (inline m.2).map (m.1, ·)).map .obj
    | v => some v
  else if schemaKeywords.contains keyword then
    match value with
    | .arr ss => (ss.mapM inline).map .arr
    | v => inline v
  else some value

/-- A member of a schema with the schemas in it replaced. -/
def inlineMember (m : String × Json) : Option (String × Json) := (inlineValue inline m.1 m.2).map (m.1, ·)

end

/-- A schema with its references replaced, as far as a budget of schemas inside each other and behind
references goes.  A reference that leads to no schema stays. -/
def Json.inline? (root : Json) : (budget : Nat) → Json → Option Json
  | 0, _ => none
  | budget + 1, .obj members =>
    match refTarget? root members with
    | some target => inline? root budget target
    | none => (members.mapM (inlineMember (inline? root budget))).map .obj
  | _ + 1, v => some v

/-- The second schema is the first with all its references replaced. -/
def Inlined (root s s' : Json) : Prop := ∃ budget, Json.inline? root budget s = some s'

/-! ## What replacing does -/

section

variable {α β : Type}

theorem mapM_eq_some {f : α → Option β} {xs : List α} {ys : List β} :
    xs.mapM f = some ys ↔ List.Forall₂ (fun x y => f x = some y) xs ys := by
  induction xs generalizing ys with
  | nil =>
    rw [List.mapM_nil]
    constructor
    · intro h
      obtain rfl := Option.some.inj h
      exact .nil
    · rintro ⟨⟩
      rfl
  | cons x rest ih =>
    rw [List.mapM_cons]
    constructor
    · intro h
      obtain ⟨y, hy, h⟩ := Option.bind_eq_some_iff.mp h
      obtain ⟨zs, hzs, h⟩ := Option.bind_eq_some_iff.mp h
      obtain rfl := Option.some.inj h
      exact .cons hy (ih.mp hzs)
    · rintro (_ | ⟨hy, hys⟩)
      simp [hy, ih.mpr hys]

end

/-- The values of a keyword before and after schemas in it are replaced, each as `T` says. -/
def ValueInlined (T : Json → Json → Prop) (keyword : String) (v v' : Json) : Prop :=
  if keyword ∈ schemaMapKeywords then
    (∃ ms ms', v = .obj ms ∧ v' = .obj ms' ∧
      List.Forall₂ (fun m m' => m'.1 = m.1 ∧ T m.2 m'.2) ms ms') ∨
    (v.obj? = none ∧ v' = v)
  else if keyword ∈ schemaKeywords then
    (∃ ss ss', v = .arr ss ∧ v' = .arr ss' ∧ List.Forall₂ T ss ss') ∨ (v.arr? = none ∧ T v v')
  else v' = v

/-- Members before and after. -/
def MembersInlined (T : Json → Json → Prop) (members members' : List (String × Json)) : Prop :=
  List.Forall₂ (fun m m' => m'.1 = m.1 ∧ ValueInlined T m.1 m.2 m'.2) members members'

section

variable {T : Json → Json → Prop} {inline : Json → Option Json} {root s s' : Json} {budget : Nat}

theorem valueInlined_of_inlineValue {keyword : String} {v v' : Json}
    (h : inlineValue inline keyword v = some v') :
    ValueInlined (fun s s' => inline s = some s') keyword v v' := by
  unfold inlineValue at h
  unfold ValueInlined
  simp only [List.contains_iff_mem] at h
  split at h
  · next hmap =>
    rw [if_pos hmap]
    cases v with
    | obj ms =>
      obtain ⟨ms', hms, rfl⟩ := Option.map_eq_some_iff.mp h
      refine .inl ⟨ms, ms', rfl, rfl, (mapM_eq_some.mp hms).imp fun m m' hm => ?_⟩
      obtain ⟨w, hw, rfl⟩ := Option.map_eq_some_iff.mp hm
      exact ⟨rfl, hw⟩
    | _ => exact .inr ⟨rfl, (Option.some.inj h).symm⟩
  · next hmap =>
    rw [if_neg hmap]
    split at h
    · next hkeyword =>
      rw [if_pos hkeyword]
      cases v with
      | arr ss =>
        obtain ⟨ss', hss, rfl⟩ := Option.map_eq_some_iff.mp h
        exact .inl ⟨ss, ss', rfl, rfl, mapM_eq_some.mp hss⟩
      | _ => exact .inr ⟨rfl, h⟩
    · next hkeyword =>
      rw [if_neg hkeyword]
      exact (Option.some.inj h).symm

theorem membersInlined_of_mapM {members members' : List (String × Json)}
    (h : members.mapM (inlineMember inline) = some members') :
    MembersInlined (fun s s' => inline s = some s') members members' := by
  refine (mapM_eq_some.mp h).imp fun m m' hm => ?_
  obtain ⟨v', hv, rfl⟩ := Option.map_eq_some_iff.mp hm
  exact ⟨rfl, valueInlined_of_inlineValue hv⟩

/-- All that replacing can do to a schema. -/
theorem inline?_cases (h : Json.inline? root (budget + 1) s = some s') :
    (∃ members target, s = .obj members ∧ refTarget? root members = some target ∧
      Json.inline? root budget target = some s') ∨
    (∃ members members', s = .obj members ∧ s' = .obj members' ∧ refTarget? root members = none ∧
      MembersInlined (fun s s' => Json.inline? root budget s = some s') members members') ∨
    (s.obj? = none ∧ s' = s) := by
  cases s with
  | obj members =>
    rw [Json.inline?] at h
    cases htarget : refTarget? root members with
    | some target =>
      rw [htarget] at h
      exact .inl ⟨members, target, rfl, htarget, h⟩
    | none =>
      rw [htarget] at h
      obtain ⟨members', hmembers, rfl⟩ := Option.map_eq_some_iff.mp h
      exact .inr (.inl ⟨members, members', rfl, rfl, htarget, membersInlined_of_mapM hmembers⟩)
  | _ => exact .inr (.inr ⟨rfl, (Option.some.inj h).symm⟩)

end

/-! ### Larger budgets -/

section

variable {f g : Json → Option Json}

theorem inlineValue_mono (hfg : ∀ s s', f s = some s' → g s = some s') {keyword : String} {v v' : Json}
    (h : inlineValue f keyword v = some v') : inlineValue g keyword v = some v' := by
  unfold inlineValue at h ⊢
  split
  · next hmap =>
    rw [if_pos hmap] at h
    cases v with
    | obj ms =>
      obtain ⟨ms', hms, rfl⟩ := Option.map_eq_some_iff.mp h
      refine Option.map_eq_some_iff.mpr ⟨ms', mapM_eq_some.mpr ?_, rfl⟩
      refine (mapM_eq_some.mp hms).imp fun m m' hm => ?_
      obtain ⟨w, hw, rfl⟩ := Option.map_eq_some_iff.mp hm
      exact Option.map_eq_some_iff.mpr ⟨w, hfg _ _ hw, rfl⟩
    | _ => exact h
  · next hmap =>
    rw [if_neg hmap] at h
    split
    · next hkeyword =>
      rw [if_pos hkeyword] at h
      cases v with
      | arr ss =>
        obtain ⟨ss', hss, rfl⟩ := Option.map_eq_some_iff.mp h
        exact Option.map_eq_some_iff.mpr
          ⟨ss', mapM_eq_some.mpr ((mapM_eq_some.mp hss).imp fun s s' => hfg s s'), rfl⟩
      | _ => exact hfg _ _ h
    · next hkeyword =>
      rw [if_neg hkeyword] at h
      exact h

theorem inlineMember_mono (hfg : ∀ s s', f s = some s' → g s = some s') {m m' : String × Json}
    (h : inlineMember f m = some m') : inlineMember g m = some m' := by
  obtain ⟨v', hv, rfl⟩ := Option.map_eq_some_iff.mp h
  exact Option.map_eq_some_iff.mpr ⟨v', inlineValue_mono hfg hv, rfl⟩

end

section

variable {root : Json}

theorem inline?_succ (budget : Nat) : ∀ s s', Json.inline? root budget s = some s' →
    Json.inline? root (budget + 1) s = some s' := by
  induction budget with
  | zero => exact fun _ _ h => by cases h
  | succ budget ih =>
    intro s s' h
    cases s with
    | obj members =>
      rw [Json.inline?] at h ⊢
      cases htarget : refTarget? root members with
      | some target =>
        rw [htarget] at h
        exact ih _ _ h
      | none =>
        rw [htarget] at h
        obtain ⟨members', hmembers, rfl⟩ := Option.map_eq_some_iff.mp h
        refine Option.map_eq_some_iff.mpr ⟨members', mapM_eq_some.mpr ?_, rfl⟩
        exact (mapM_eq_some.mp hmembers).imp fun m m' => inlineMember_mono ih
    | _ => exact h

theorem inline?_mono {budget more : Nat} (hle : budget ≤ more) {s s' : Json}
    (h : Json.inline? root budget s = some s') : Json.inline? root more s = some s' := by
  induction hle with
  | refl => exact h
  | step _ ih => exact inline?_succ _ _ _ ih

/-- A schema has at most one replacement. -/
theorem Inlined.unique {s s' s'' : Json} (h : Inlined root s s') (h' : Inlined root s s'') :
    s' = s'' := by
  obtain ⟨b, hb⟩ := h
  obtain ⟨b', hb'⟩ := h'
  have hmax := inline?_mono (Nat.le_max_left b b') hb
  rw [inline?_mono (Nat.le_max_right b b') hb'] at hmax
  exact (Option.some.inj hmax).symm

/-! ### What a replacement is -/

theorem target?_isSchema {reference : String} {s : Json} (h : root.target? reference = some s) :
    s.isSchema = true := by
  unfold Json.target? at h
  split at h
  · split at h
    · next hschema => exact Option.some.inj h ▸ hschema
    · cases h
  · cases h

theorem inline?_isSchema (budget : Nat) : ∀ {s s' : Json}, Json.inline? root budget s = some s' →
    s.isSchema = true → s'.isSchema = true := by
  induction budget with
  | zero => exact fun h => by cases h
  | succ budget ih =>
    intro s s' h hs
    rcases inline?_cases h with ⟨members, target, rfl, htarget, h⟩ | ⟨_, _, rfl, rfl, -, -⟩ | ⟨-, rfl⟩
    · obtain ⟨reference, -, hreference⟩ := Option.bind_eq_some_iff.mp htarget
      exact ih h (target?_isSchema hreference)
    · rfl
    · exact hs

/-- What is no object stays as it is. -/
theorem inline?_eq_self {budget : Nat} {s s' : Json} (h : Json.inline? root budget s = some s')
    (hs : s.obj? = none) : s' = s := by
  cases budget with
  | zero => cases h
  | succ budget =>
    rcases inline?_cases h with ⟨_, _, rfl, -⟩ | ⟨_, _, rfl, -⟩ | ⟨-, rfl⟩
    · cases hs
    · cases hs
    · rfl

theorem inline?_str?_eq_none {budget : Nat} {s s' : Json} (h : Json.inline? root budget s = some s')
    (hs : s.str? = none) : s'.str? = none := by
  cases budget with
  | zero => cases h
  | succ budget =>
    cases s with
    | obj members =>
      have hschema := inline?_isSchema _ h rfl
      cases s' <;> first | rfl | cases hschema
    | str s => cases hs
    | _ => exact Option.some.inj h ▸ rfl

end

/-! ### Members -/

section

variable {T : Json → Json → Prop} {members members' : List (String × Json)}

/-- Of two lists with the same names, a name leads to related values or to none. -/
theorem lookup_of_forall₂ {R : String → Json → Json → Prop} {ms ms' : List (String × Json)}
    (h : List.Forall₂ (fun m m' => m'.1 = m.1 ∧ R m.1 m.2 m'.2) ms ms') (name : String) :
    (ms.lookup name = none ∧ ms'.lookup name = none) ∨
      ∃ v v', ms.lookup name = some v ∧ ms'.lookup name = some v' ∧ R name v v' := by
  induction h with
  | nil => exact .inl ⟨rfl, rfl⟩
  | @cons m m' rest rest' hm _ ih =>
    obtain ⟨first, v⟩ := m
    obtain ⟨first', v'⟩ := m'
    obtain ⟨rfl, hv⟩ := hm
    rw [List.lookup_cons, List.lookup_cons]
    cases hname : name == first' with
    | true =>
      obtain rfl : name = first' := by simpa using hname
      exact .inr ⟨v, v', rfl, rfl, hv⟩
    | false => exact ih

/-- A keyword has a value before exactly if it has one after. -/
theorem MembersInlined.lookup (h : MembersInlined T members members') (keyword : String) :
    (members.lookup keyword = none ∧ members'.lookup keyword = none) ∨
      ∃ v v', members.lookup keyword = some v ∧ members'.lookup keyword = some v' ∧
        ValueInlined T keyword v v' :=
  lookup_of_forall₂ h keyword

/-- Keywords whose values are no schemas keep their values. -/
theorem MembersInlined.lookup_eq (h : MembersInlined T members members') {keyword : String}
    (hmap : keyword ∉ schemaMapKeywords) (hkeyword : keyword ∉ schemaKeywords) :
    members'.lookup keyword = members.lookup keyword := by
  rcases h.lookup keyword with ⟨hnone, hnone'⟩ | ⟨v, v', hv, hv', hvalue⟩
  · rw [hnone, hnone']
  · rw [ValueInlined, if_neg hmap, if_neg hkeyword] at hvalue
    rw [hv, hv', hvalue]

theorem ValueInlined.withoutIds
    (hT : ∀ s s', T s s' → s.WithoutIds → s'.WithoutIds ∧ (s.str? = none → s'.str? = none))
    {keyword : String} {v v' : Json} (h : ValueInlined T keyword v v') (hv : v.WithoutIds) :
    v'.WithoutIds := by
  unfold ValueInlined at h
  split at h
  · rcases h with ⟨ms, ms', rfl, rfl, hms⟩ | ⟨-, rfl⟩
    · intro w hw
      cases hw with
      -- the names may include `$id`, but no schema is a text
      | here =>
        have hid := hv _ (.here _)
        unfold idOf? Json.get? at hid ⊢
        dsimp only at hid ⊢
        rcases lookup_of_forall₂ (R := fun _ => T) hms "$id" with ⟨-, hnone⟩ | ⟨u, u', hu, hu', ht⟩
        · rw [hnone]
          rfl
        · obtain ⟨_, _, rfl, -⟩ := List.lookup_eq_some_iff.mp hu
          rw [hu] at hid
          rw [hu']
          exact (hT u u' ht (hv.inside (.member (m := ("$id", u)) (by simp) (.here u)))).2 hid
      | member hm hw =>
        obtain ⟨m, hmem, -, ht⟩ := exists_left_of_forall₂ hms _ hm
        exact (hT _ _ ht (hv.inside (.member hmem (.here _)))).1 _ hw
    · exact hv
  · split at h
    · rcases h with ⟨ss, ss', rfl, rfl, hss⟩ | ⟨-, ht⟩
      · intro w hw
        cases hw with
        | here => rfl
        | element hs hw =>
          obtain ⟨s, hmem, ht⟩ := exists_left_of_forall₂ hss _ hs
          exact (hT _ _ ht (hv.inside (.element hmem (.here _)))).1 _ hw
      · exact (hT _ _ ht hv).1
    · exact h ▸ hv

end

/-! ## Where nothing leads back to itself -/

namespace Documents

theorem follow_inside {tokens : List String} : ∀ {v w : Json} {base base' : Uri},
    follow v base tokens = .ok (some (w, base')) → w.Inside v := by
  induction tokens with
  | nil =>
    intro v w base base' h
    obtain ⟨rfl, -⟩ := Prod.mk.inj (Option.some.inj (Except.ok.inj h))
    exact .here v
  | cons token rest ih =>
    intro v w base base' h
    rw [follow] at h
    cases hstep : step? v token with
    | none =>
      rw [hstep] at h
      cases h
    | some inner =>
      rw [hstep] at h
      dsimp only at h
      cases hbase : schemaBase inner base with
      | error e =>
        rw [hbase] at h
        cases h
      | ok mid =>
        rw [hbase] at h
        exact (ih h).trans (step?_inside hstep)

/-- What can be referred to among one document is a part of it. -/
theorem resolve_alone_inside {root : Json} {base : Uri} {reference : String} {target : Target}
    (h : (alone root).resolve base reference = .ok target) : target.schema.Inside root := by
  have hget : ∀ {uri : String} {s : Json}, (alone root).get? uri = some s → s = root := by
    intro uri s hs
    rw [alone, Table.get?_set] at hs
    split at hs
    · exact (Option.some.inj hs).symm
    · cases hs
  obtain ⟨u, -, hfound⟩ := exists_foundAt h
  cases hfound with
  | name _ hschema => exact hget hschema ▸ .here _
  | pointer _ hroot _ _ hfollow => exact hget hroot ▸ follow_inside hfollow

end Documents

section

variable {root : Json}

theorem target?_inside {reference : String} {s : Json} (h : root.target? reference = some s) :
    s.Inside root := by
  unfold Json.target? at h
  split at h
  · next target htarget =>
    split at h
    · exact Option.some.inj h ▸ Documents.resolve_alone_inside htarget
    · cases h
  · cases h

theorem Leads.inside {s t : Json} (h : Leads root s t) (hs : s.Inside root) : t.Inside root := by
  have hmember : ∀ {members : List (String × Json)} {m : String × Json} {w : Json},
      (Json.obj members).Inside root → m ∈ members → w.Inside m.2 → w.Inside root :=
    fun hs hm hw => (Json.Inside.member hm hw).trans hs
  cases h with
  | target h =>
    obtain ⟨_, -, h⟩ := Option.bind_eq_some_iff.mp h
    exact target?_inside h
  | single _ hm _ => exact hmember hs hm (.here _)
  | listed _ hm _ ht => exact hmember hs hm (.element ht (.here _))
  | named _ hm _ ht => exact hmember hs hm (.member ht (.here _))

/-- Replacing references brings in no `$id`s. -/
theorem inline?_withoutIds (hroot : root.WithoutIds) (budget : Nat) : ∀ {s s' : Json},
    Json.inline? root budget s = some s' → s.WithoutIds → s'.WithoutIds := by
  induction budget with
  | zero => exact fun h => by cases h
  | succ budget ih =>
    intro s s' h hs
    rcases inline?_cases h with ⟨members, target, rfl, htarget, h⟩ | ⟨members, members', rfl, rfl, -, h⟩ |
      ⟨-, rfl⟩
    · obtain ⟨reference, -, hreference⟩ := Option.bind_eq_some_iff.mp htarget
      exact ih h (hroot.inside (target?_inside hreference))
    · intro w hw
      cases hw with
      | here =>
        have hid := hs _ (.here _)
        unfold idOf? Json.get? at hid ⊢
        dsimp only at hid ⊢
        rwa [h.lookup_eq (by decide) (by decide)]
      | member hm hw =>
        obtain ⟨m, hmem, -, hvalue⟩ := exists_left_of_forall₂ h _ hm
        refine hvalue.withoutIds (fun s s' ht hs => ?_) (hs.inside (.member hmem (.here _))) _ hw
        exact ⟨ih ht hs, inline?_str?_eq_none ht⟩
    · exact hs

/-- There are finitely many values inside a value. -/
theorem finite_inside : ∀ v : Json, {w : Json | w.Inside v}.Finite := by
  suffices h : ∀ n, ∀ v : Json, sizeOf v < n → {w : Json | w.Inside v}.Finite from
    fun v => h (sizeOf v + 1) v (Nat.lt_succ_self _)
  intro n
  induction n with
  | zero => exact fun v hv => absurd hv (Nat.not_lt_zero _)
  | succ n ih =>
    intro v hv
    have hleaf : v.obj? = none → v.arr? = none → {w : Json | w.Inside v}.Finite := by
      intro hobj harr
      refine (Set.finite_singleton v).subset fun w hw => ?_
      cases hw with
      | here => rfl
      | element => cases harr
      | member => cases hobj
    cases v with
    | obj members =>
      have hparts : (⋃ m ∈ {m | m ∈ members}, {w : Json | w.Inside m.2}).Finite := by
        refine members.finite_toSet.biUnion fun m hm => ih _ ?_
        have := sizeOf_lt_of_mem_members hm
        simp only [Json.obj.sizeOf_spec] at hv
        omega
      refine (hparts.insert (.obj members)).subset fun w hw => ?_
      cases hw with
      | here => exact Set.mem_insert _ _
      | member hm hw => exact Set.mem_insert_of_mem _ (Set.mem_biUnion hm hw)
    | arr items =>
      have hparts : (⋃ item ∈ {item | item ∈ items}, {w : Json | w.Inside item}).Finite := by
        refine items.finite_toSet.biUnion fun item hitem => ih _ ?_
        have := List.sizeOf_lt_of_mem hitem
        simp only [Json.arr.sizeOf_spec] at hv
        omega
      refine (hparts.insert (.arr items)).subset fun w hw => ?_
      cases hw with
      | here => exact Set.mem_insert _ _
      | element hitem hw => exact Set.mem_insert_of_mem _ (Set.mem_biUnion hitem hw)
    | _ => exact hleaf rfl rfl

/-- What a document leads to. -/
def Reached (root s : Json) : Prop := Relation.ReflTransGen (Leads root) root s

theorem Reached.inside {s : Json} (h : Reached root s) : s.Inside root := by
  induction h with
  | refl => exact .here root
  | tail _ hlead ih => exact hlead.inside ih

theorem Reached.tail {s t : Json} (h : Reached root s) (hlead : Leads root s t) : Reached root t :=
  Relation.ReflTransGen.tail h hlead

/-- What holds of a document, and is handed on, holds of all that the document leads to. -/
theorem Reached.of_closed {P : Json → Prop} (hroot : P root) (hstep : ∀ s t, P s → Leads root s t → P t)
    {s : Json} (h : Reached root s) : P s := by
  induction h with
  | refl => exact hroot
  | tail _ hlead ih => exact hstep _ _ ih hlead

/-- Where a rank goes down, nothing leads back to itself. -/
theorem ReferencesAcyclic.of_rank (rank : Json → Nat)
    (h : ∀ s t, Reached root s → Leads root s t → rank t < rank s) : ReferencesAcyclic root := by
  have hdown : ∀ {s t}, Reached root s → Relation.TransGen (Leads root) s t → rank t < rank s := by
    intro s t hs htrans
    induction htrans with
    | single hlead => exact h _ _ hs hlead
    | tail htrans hlead ih => exact (h _ _ (hs.trans htrans.to_reflTransGen) hlead).trans ih
  exact fun s hs hcycle => Nat.lt_irrefl _ (hdown hs hcycle)

/-- Without cycles, going from schemas to those they lead to comes to an end. -/
theorem wellFounded_leads (hacyclic : ReferencesAcyclic root) :
    WellFounded fun a b : {s // Reached root s} => Relation.TransGen (Leads root) b.1 a.1 := by
  have hfinite : Finite {s // Reached root s} :=
    ((finite_inside root).subset fun s hs => Reached.inside hs).to_subtype
  have htrans : IsTrans {s // Reached root s} fun a b => Relation.TransGen (Leads root) b.1 a.1 :=
    ⟨fun _ _ _ hab hbc => hbc.trans hab⟩
  have hirrefl : Std.Irrefl fun a b : {s // Reached root s} => Relation.TransGen (Leads root) b.1 a.1 :=
    ⟨fun a => hacyclic a.1 a.2⟩
  exact Finite.wellFounded_of_trans_of_irrefl _

/-- Entries that can each be handled with some budget can all be handled with one. -/
theorem exists_common_budget {α β : Type} (f : Nat → α → Option β) (xs : List α)
    (hmono : ∀ n x y, f n x = some y → f (n + 1) x = some y)
    (h : ∀ x ∈ xs, ∃ n y, f n x = some y) : ∃ n ys, xs.mapM (f n) = some ys := by
  have hle : ∀ {n m x y}, n ≤ m → f n x = some y → f m x = some y := by
    intro n m x y hnm hy
    induction hnm with
    | refl => exact hy
    | step _ ih => exact hmono _ _ _ ih
  induction xs with
  | nil => exact ⟨0, [], rfl⟩
  | cons x rest ih =>
    obtain ⟨hx, hrest⟩ := List.forall_mem_cons.mp h
    obtain ⟨n, y, hy⟩ := hx
    obtain ⟨m, ys, hys⟩ := ih hrest
    refine ⟨max n m, y :: ys, mapM_eq_some.mpr (.cons (hle (Nat.le_max_left n m) hy) ?_)⟩
    exact (mapM_eq_some.mp hys).imp fun _ _ => hle (Nat.le_max_right n m)

/-- The value of a keyword can be replaced if the schemas in it can. -/
theorem exists_inlineValue {keyword : String} {v : Json}
    (hmap : keyword ∈ schemaMapKeywords → ∀ ms, v = .obj ms → ∀ m ∈ ms, ∃ s', Inlined root m.2 s')
    (hlist : keyword ∈ schemaKeywords → ∀ ss, v = .arr ss → ∀ s ∈ ss, ∃ s', Inlined root s s')
    (hone : keyword ∈ schemaKeywords → v.arr? = none → ∃ s', Inlined root v s') :
    ∃ budget v', inlineValue (Json.inline? root budget) keyword v = some v' := by
  unfold inlineValue
  simp only [List.contains_iff_mem]
  split
  · next hkeyword =>
    cases v with
    | obj ms =>
      have hmono : ∀ n (m m' : String × Json),
          (Json.inline? root n m.2).map (m.1, ·) = some m' →
          (Json.inline? root (n + 1) m.2).map (m.1, ·) = some m' := by
        intro n m m' hm
        obtain ⟨w, hw, rfl⟩ := Option.map_eq_some_iff.mp hm
        exact Option.map_eq_some_iff.mpr ⟨w, inline?_succ n _ _ hw, rfl⟩
      obtain ⟨n, ms', hms⟩ := exists_common_budget _ ms hmono fun m hm => by
        obtain ⟨s', n, hs'⟩ := hmap hkeyword ms rfl m hm
        exact ⟨n, (m.1, s'), Option.map_eq_some_iff.mpr ⟨s', hs', rfl⟩⟩
      exact ⟨n, .obj ms', Option.map_eq_some_iff.mpr ⟨ms', hms, rfl⟩⟩
    | _ => exact ⟨0, _, rfl⟩
  · split
    · next hkeyword =>
      cases v with
      | arr ss =>
        obtain ⟨n, ss', hss⟩ := exists_common_budget _ ss inline?_succ fun s hs => by
          obtain ⟨s', n, hs'⟩ := hlist hkeyword ss rfl s hs
          exact ⟨n, s', hs'⟩
        exact ⟨n, .arr ss', Option.map_eq_some_iff.mpr ⟨ss', hss, rfl⟩⟩
      | _ =>
        obtain ⟨s', n, hs'⟩ := hone hkeyword rfl
        exact ⟨n, s', hs'⟩
    · exact ⟨0, v, rfl⟩

/-- **Where nothing leads back to itself, every schema has a replacement.** -/
theorem exists_inlined (hacyclic : ReferencesAcyclic root) {s : Json} (hs : Reached root s) :
    ∃ s', Inlined root s s' := by
  suffices h : ∀ a : {s // Reached root s}, ∃ s', Inlined root a.1 s' from h ⟨s, hs⟩
  intro a
  induction a using (wellFounded_leads hacyclic).induction with
  | _ a ih =>
    obtain ⟨s, hs⟩ := a
    have hnext : ∀ t, Leads root s t → ∃ t', Inlined root t t' := fun t hlead =>
      ih ⟨t, hs.tail hlead⟩ (.single hlead)
    cases s with
    | obj members =>
      cases htarget : refTarget? root members with
      | some target =>
        obtain ⟨s', n, hs'⟩ := hnext target (.target htarget)
        refine ⟨s', n + 1, ?_⟩
        rw [Json.inline?, htarget]
        exact hs'
      | none =>
        have hmember : ∀ m ∈ members, ∃ n m', inlineMember (Json.inline? root n) m = some m' := by
          intro m hm
          obtain ⟨n, v', hv'⟩ := exists_inlineValue
            (fun hk ms hms w hw => hnext w.2 (.named htarget (hms ▸ hm) hk hw))
            (fun hk ss hss t ht => hnext t (.listed htarget (hss ▸ hm) hk ht))
            (fun hk _ => hnext m.2 (.single htarget hm hk))
          exact ⟨n, (m.1, v'), Option.map_eq_some_iff.mpr ⟨v', hv', rfl⟩⟩
        obtain ⟨n, members', hmembers⟩ := exists_common_budget
          (fun n => inlineMember (Json.inline? root n)) members
          (fun n m m' => inlineMember_mono (inline?_succ n)) hmember
        refine ⟨.obj members', n + 1, ?_⟩
        rw [Json.inline?, htarget]
        exact Option.map_eq_some_iff.mpr ⟨members', hmembers, rfl⟩
    | _ => exact ⟨_, 1, rfl⟩

end

end JsonSchema
