import JsonSchema.Proofs.Draft7.Semantics
import JsonSchema.Proofs.Lowering.Schemas

/-!
# References inside one document

A reference is local if it is `#` or `#/` and a pointer.  Such a reference leads into the document that
is filed at the base, whatever other documents there are (`resolve_eq_point`, `resolve_local`), and in a
document without `$id`s it leaves the base as it is (`local_target`).  Its key then says which part of
the document it leads to (`Target.PointsInto.eq_of_key`).
-/

set_option autoImplicit false

namespace JsonSchema

/-! ## Local references as URIs -/

/-- The reference is `#`, or a JSON pointer behind `#`. -/
def IsLocalReference (reference : String) : Prop :=
  ∃ rest, reference.toList = '#' :: rest ∧ ∀ c, rest.head? = some c → c = '/'

namespace Uri

/-- Blanks at the end go, and a character that is none stays with what is before it. -/
theorem trimEnd_cons {p : Char → Bool} {c : Char} (hc : p c = false) (cs : List Char) :
    ((c :: cs).reverse.dropWhile p).reverse = c :: (cs.reverse.dropWhile p).reverse := by
  rw [List.reverse_cons, List.dropWhile_append]
  split
  · next h => simp [hc, List.isEmpty_iff.mp h]
  · rw [List.reverse_append]
    rfl

/-- What counts of a text whose first two characters do. -/
theorem significant_local {reference : String} (h : IsLocalReference reference) :
    ∃ rest, significant reference = '#' :: rest ∧ ∀ c, rest.head? = some c → c = '/' := by
  obtain ⟨rest, hr, hslash⟩ := h
  unfold significant
  dsimp only
  rw [hr, List.dropWhile_cons_of_neg (by decide), trimEnd_cons (by decide),
    List.filter_cons_of_pos (by decide)]
  refine ⟨_, rfl, ?_⟩
  cases rest with
  | nil => exact fun c hc => by simp at hc
  | cons slash more =>
    obtain rfl := hslash slash rfl
    rw [trimEnd_cons (by decide), List.filter_cons_of_pos (by decide)]
    exact fun c hc => (Option.some.inj hc).symm

end Uri

/-- A local reference changes the fragment of the base and nothing else. -/
theorem resolveUri_local {reference : String} (h : IsLocalReference reference) :
    ∃ fragment, isAnchor fragment = false ∧
      ∀ base, resolveUri base reference = .ok { base with fragment := some fragment } := by
  obtain ⟨rest, hsignificant, hslash⟩ := Uri.significant_local h
  refine ⟨Percent.encode Uri.inFragmentSet rest, ?_, fun base => ?_⟩
  · cases rest with
    | nil => rfl
    | cons slash more =>
      obtain rfl := hslash slash rfl
      rfl
  · have hscheme : Uri.readScheme? ('#' :: rest) = none := rfl
    unfold resolveUri Uri.join Uri.read
    dsimp only
    rw [hsignificant, hscheme]
    rfl

/-! ## What stands inside a value -/

/-- The value, or one inside it. -/
inductive Json.Inside : Json → Json → Prop where
  | here (v : Json) : Inside v v
  | element {w item : Json} {items : List Json} : item ∈ items → Inside w item → Inside w (.arr items)
  | member {w : Json} {m : String × Json} {members : List (String × Json)} : m ∈ members →
      Inside w m.2 → Inside w (.obj members)

theorem Json.Inside.trans {u v w : Json} (huv : u.Inside v) (hvw : v.Inside w) : u.Inside w := by
  induction hvw with
  | here => exact huv
  | element hitem _ ih => exact .element hitem ih
  | member hm _ ih => exact .member hm ih

theorem Json.HasSubschema.inside {members : List (String × Json)} {s : Json}
    (h : Json.HasSubschema members s) : s.Inside (.obj members) := by
  cases h with
  | single _ hlookup => exact .member (mem_of_lookup hlookup) (.here s)
  | listed _ hlookup hs => exact .member (mem_of_lookup hlookup) (.element hs (.here s))
  | @named _ _ m _ hlookup hm => exact .member (mem_of_lookup hlookup) (.member hm (.here m.2))

/-- No value inside has an `$id`. -/
def Json.WithoutIds (v : Json) : Prop := ∀ w, w.Inside v → idOf? w = none

theorem Json.WithoutIds.inside {v w : Json} (h : v.WithoutIds) (hw : w.Inside v) : w.WithoutIds :=
  fun _ hu => h _ (hu.trans hw)

theorem withoutIds_obj {members : List (String × Json)} :
    (Json.obj members).WithoutIds ↔
      (members.lookup "$id").bind Json.str? = none ∧ ∀ m ∈ members, m.2.WithoutIds := by
  constructor
  · exact fun h => ⟨h _ (.here _), fun m hm => h.inside (.member hm (.here _))⟩
  · rintro ⟨hid, hmembers⟩ w hw
    cases hw with
    | here => exact hid
    | member hm hw => exact hmembers _ hm w hw

theorem withoutIds_arr {items : List Json} :
    (Json.arr items).WithoutIds ↔ ∀ item ∈ items, item.WithoutIds := by
  constructor
  · exact fun h item hitem => h.inside (.element hitem (.here _))
  · rintro hitems w hw
    cases hw with
    | here => rfl
    | element hitem hw => exact hitems _ hitem w hw

theorem withoutIds_str (text : String) : (Json.str text).WithoutIds := by
  rintro w ⟨⟩
  rfl

theorem withoutIds_bool (b : Bool) : (Json.bool b).WithoutIds := by
  rintro w ⟨⟩
  rfl

theorem schemaBase_of_withoutIds {v : Json} (h : v.WithoutIds) (base : Uri) :
    schemaBase v base = .ok base := by
  rw [schemaBase, h v (.here v)]

namespace Documents

theorem step?_inside {v w : Json} {token : String} (h : step? v token = some w) : w.Inside v := by
  unfold step? at h
  split at h
  · exact .member (mem_of_lookup h) (.here w)
  · obtain ⟨i, -, hi⟩ := Option.bind_eq_some_iff.mp h
    exact .element (List.mem_of_getElem? hi) (.here w)
  · cases h

/-- Without `$id`s the tokens lead to a part, and the base stays, whatever it is. -/
theorem follow_of_withoutIds (tokens : List String) : ∀ {v : Json}, v.WithoutIds →
    (∀ base, follow v base tokens = .ok none) ∨
      ∃ w, w.Inside v ∧ ∀ base, follow v base tokens = .ok (some (w, base)) := by
  induction tokens with
  | nil => exact fun {v} _ => .inr ⟨v, .here v, fun _ => rfl⟩
  | cons token rest ih =>
    intro v hv
    cases hstep : step? v token with
    | none =>
      refine .inl fun base => ?_
      rw [follow, hstep]
    | some inner =>
      have hinner := step?_inside hstep
      have hfollow : ∀ base, follow v base (token :: rest) = follow inner base rest := by
        intro base
        rw [follow, hstep]
        dsimp only
        rw [schemaBase_of_withoutIds (hv.inside hinner)]
        rfl
      simp only [hfollow]
      rcases ih (hv.inside hinner) with hnone | ⟨w, hw, hsome⟩
      · exact .inl hnone
      · exact .inr ⟨w, hw.trans hinner, hsome⟩

/-- One document, at the default base. -/
def alone (root : Json) : Documents := Table.empty.set defaultBase.text root

mutual

/-- A value without `$id`s files nothing. -/
theorem index_of_withoutIds (documents : Documents) (base : Uri) : ∀ v : Json, v.WithoutIds →
    documents.index base v = .ok documents
  | .obj members, h => by
    have hnone := h _ (.here (.obj members))
    rw [index, identify, hnone]
    exact indexMembers_of_withoutIds documents base members fun m hm =>
      h.inside (.member hm (.here m.2))
  | .arr items, h => by
    rw [index]
    exact indexItems_of_withoutIds documents base items fun item hitem =>
      h.inside (.element hitem (.here item))
  | .null, _ | .bool _, _ | .num _, _ | .str _, _ => rfl

theorem indexItems_of_withoutIds (documents : Documents) (base : Uri) : ∀ items : List Json,
    (∀ item ∈ items, item.WithoutIds) → documents.indexItems base items = .ok documents
  | [], _ => by rw [indexItems]
  | item :: rest, h => by
    obtain ⟨hitem, hrest⟩ := List.forall_mem_cons.mp h
    rw [indexItems, index_of_withoutIds documents base item hitem]
    exact indexItems_of_withoutIds documents base rest hrest

theorem indexMembers_of_withoutIds (documents : Documents) (base : Uri) :
    ∀ members : List (String × Json), (∀ m ∈ members, m.2.WithoutIds) →
      documents.indexMembers base members = .ok documents
  | [], _ => by rw [indexMembers]
  | (name, v) :: rest, h => by
    obtain ⟨hv, hrest⟩ := List.forall_mem_cons.mp h
    rw [indexMembers]
    split
    · exact indexMembers_of_withoutIds documents base rest hrest
    · rw [index_of_withoutIds documents base v hv]
      exact indexMembers_of_withoutIds documents base rest hrest

end

/-- Of a cache without `$id`s only the documents are filed. -/
theorem ofCache_of_withoutIds {cache : Table String Json}
    (h : ∀ e ∈ cache.entries, e.2.WithoutIds ∧ ∃ uri, Uri.parse e.1 = .ok uri) :
    ofCache cache = .ok (cache.entries.foldl (fun documents e => documents.set e.1 e.2) .empty) := by
  unfold ofCache
  generalize Table.empty = documents
  revert h documents
  generalize cache.entries = entries
  intro h
  induction entries with
  | nil => exact fun documents => rfl
  | cons e rest ih =>
    intro documents
    obtain ⟨⟨hids, uri, huri⟩, hrest⟩ := List.forall_mem_cons.mp h
    obtain ⟨key, document⟩ := e
    rw [List.foldlM_cons]
    dsimp only at huri ⊢
    rw [huri]
    show (add documents key uri document >>= _) = _
    rw [add, index_of_withoutIds _ _ document hids]
    exact ih hrest (documents.set key document)

/-- A root without `$id`s is the one document that is filed at the default base. -/
theorem visibleFrom_of_withoutIds {root : Json} {cache : Table String Json} (h : root.WithoutIds) :
    visibleFrom root defaultBase cache =
      (ofCache cache).map fun documents => documents.set defaultBase.text root := by
  unfold visibleFrom add
  cases ofCache cache with
  | error e => rfl
  | ok documents => exact index_of_withoutIds _ _ root h

/-- What a URI leads to: a schema that has it as its name, or the part of a document that its fragment points
    to. -/
inductive FoundAt (docs : Documents) (u : Uri) : Target → Prop where
  | name {schema : Json} : u.isAnchored = true → docs.get? u.text = some schema →
      FoundAt docs u ⟨schema, u.withoutFragment, u.text, ""⟩
  | pointer {root schema : Json} {base : Uri} {pointer : List Char} {tokens : List String} :
      u.isAnchored = false → docs.get? u.withoutFragment.text = some root →
      Percent.decode? (u.fragment.getD []) = some pointer →
      Pointer.parse? (String.ofList pointer) = some tokens →
      follow root u.withoutFragment tokens = .ok (some (schema, base)) →
      FoundAt docs u
        ⟨schema, base, u.withoutFragment.text ++ "#" ++ String.ofList pointer, String.ofList pointer⟩

/-- A reference that leads somewhere leads where its URI does. -/
theorem exists_foundAt {docs : Documents} {base : Uri} {reference : String} {target : Target}
    (h : docs.resolve base reference = .ok target) :
    ∃ u, resolveUri base reference = .ok u ∧ docs.FoundAt u target := by
  unfold resolve at h
  cases huri : resolveUri base reference with
  | error e =>
    rw [huri] at h
    cases h
  | ok u =>
    rw [huri] at h
    simp only [bind, Except.bind] at h
    refine ⟨u, rfl, ?_⟩
    split at h
    · next hanchor =>
      split at h
      · next schema hschema =>
        obtain rfl := Except.ok.inj h
        exact .name hanchor hschema
      · cases h
    · next hanchor =>
      split at h
      · next root hroot =>
        split at h
        · next pointer hpointer =>
          split at h
          · next tokens htokens =>
            split at h
            · cases h
            · next found hfollow =>
              split at h
              · obtain rfl := Except.ok.inj h
                exact .pointer (Bool.eq_false_iff.mpr hanchor) hroot hpointer htokens hfollow
              · cases h
          · cases h
        · cases h
      · cases h

/-- What a fragment leads to in the document at a base. -/
def point (root : Json) (base : Uri) (reference : String) (fragment : List Char) :
    Except SchemaError Target :=
  let missing : SchemaError := .missingRef reference base.text
  match Percent.decode? fragment with
  | none => .error missing
  | some pointer =>
    match Pointer.parse? (String.ofList pointer) with
    | none => .error missing
    | some tokens =>
      match follow root base tokens with
      | .error e => .error e
      | .ok none => .error missing
      | .ok (some (schema, inner)) =>
        .ok ⟨schema, inner, base.text ++ "#" ++ String.ofList pointer, String.ofList pointer⟩

/-- A local reference is resolved in the document at the base. -/
theorem resolve_eq_point {reference : String} (h : IsLocalReference reference) :
    ∃ fragment, ∀ (documents : Documents) (root : Json) (base : Uri), base.withoutFragment = base →
      documents.get? base.text = some root →
      documents.resolve base reference = point root base reference fragment := by
  obtain ⟨fragment, hanchor, huri⟩ := resolveUri_local h
  refine ⟨fragment, fun documents root base hbase hroot => ?_⟩
  have hdocument : { base with fragment := some fragment }.withoutFragment = base := hbase
  have hanchored : { base with fragment := some fragment }.isAnchored = false := hanchor
  unfold resolve point
  simp only [huri, bind, Except.bind, hanchored, hdocument, hroot, Option.getD_some]
  cases Percent.decode? fragment with
  | none => rfl
  | some pointer =>
    dsimp only
    cases Pointer.parse? (String.ofList pointer) with
    | none => rfl
    | some tokens =>
      dsimp only
      rcases follow root base tokens with _ | _ | _ <;> rfl

theorem get?_alone (root : Json) : (alone root).get? defaultBase.text = some root := by
  simp [alone, Table.get?_set]

/-- **A local reference leads into the document at the default base**, whatever others there are. -/
theorem resolve_local {documents : Documents} {root : Json} {reference : String}
    (hroot : documents.get? defaultBase.text = some root) (h : IsLocalReference reference) :
    documents.resolve defaultBase reference = (alone root).resolve defaultBase reference := by
  obtain ⟨fragment, hpoint⟩ := resolve_eq_point h
  rw [hpoint documents root _ rfl hroot, hpoint (alone root) root _ rfl (get?_alone root)]

end Documents

section

variable {root : Json} {documents : Documents} {base : Uri} {reference : String} {target : Target}

/-- The target is the part of the document at the base that its fragment points to. -/
structure Target.PointsInto (target : Target) (root : Json) (document : Uri) : Prop where
  base : target.base = document
  key : target.key = document.text ++ "#" ++ target.fragment
  pointer : ∃ tokens, Pointer.parse? target.fragment = some tokens ∧
    ∀ base, Documents.follow root base tokens = .ok (some (target.schema, base))

/-- What a local reference leads to: the part of the document that its pointer names, with the base of
    the document. -/
theorem local_target (hids : root.WithoutIds) (h : IsLocalReference reference)
    (hbase : base.withoutFragment = base) (hroot : documents.get? base.text = some root)
    (htarget : documents.resolve base reference = .ok target) :
    target.schema.Inside root ∧ target.PointsInto root base := by
  obtain ⟨fragment, hpoint⟩ := Documents.resolve_eq_point h
  rw [hpoint _ root _ hbase hroot, Documents.point] at htarget
  split at htarget
  · cases htarget
  · next pointer _ =>
    split at htarget
    · cases htarget
    · next tokens htokens =>
      rcases Documents.follow_of_withoutIds tokens hids with hf | ⟨w, hw, hf⟩
      · rw [hf] at htarget
        cases htarget
      · rw [hf] at htarget
        obtain rfl := Except.ok.inj htarget
        exact ⟨hw, rfl, rfl, tokens, htokens, hf⟩

/-- The key of a part says what the part is. -/
theorem Target.PointsInto.eq_of_key {target' : Target} (h : target.PointsInto root base)
    (h' : target'.PointsInto root base) (hkey : target.key = target'.key) : target = target' := by
  obtain ⟨hbase, hk, tokens, htokens, hf⟩ := h
  obtain ⟨hbase', hk', tokens', htokens', hf'⟩ := h'
  have hfragment : target.fragment = target'.fragment := by
    rw [hk, hk'] at hkey
    simpa using hkey
  rw [hfragment, htokens'] at htokens
  obtain rfl := Option.some.inj htokens
  have hschema := Except.ok.inj ((hf base).symm.trans (hf' base))
  obtain ⟨schema, _, _, _⟩ := target
  obtain ⟨schema', _, _, _⟩ := target'
  obtain ⟨rfl, -⟩ := Prod.mk.inj (Option.some.inj hschema)
  cases hbase
  cases hbase'
  cases hfragment
  cases hkey
  rfl

end

end JsonSchema
