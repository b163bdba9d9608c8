import JsonSchema.Proofs.Lowering.Visits
import JsonSchema.Proofs.Reference.Collisions
import JsonSchema.Proofs.Reference.Local
import JsonSchema.Store.StrictMode

/-!
# The base of every reference

The base of a reference is the URI of its document, joined in order and once each with the `$id`s on the
way from the document down to the schema of the reference (`Documents.Stands`).  Four places of the code
work it out: the root, lowering, the index and the tokens of a pointer.  Here they are compared.

They differ where an `$id` is joined that is part of the base already: lowering joins the `$id` of the
root and that of every target of a reference once more, and so does the index with that of a document.
Where joining it once more changes nothing (`Environment.Settled`), **all of them agree on every
reference that lowering comes to**.
-/

set_option autoImplicit false

namespace JsonSchema

/-! ## Where a value stands in a document -/

/-- The values right inside a value, those of an object with their names. -/
def Json.parts : Json → List (Option String × Json)
  | .arr items => items.map (none, ·)
  | .obj members => members.map fun m => (some m.1, m.2)
  | _ => []

theorem Json.parts_obj {members : List (String × Json)} {i : Nat} {name : String} {v : Json}
    (h : members[i]? = some (name, v)) : (Json.obj members).parts[i]? = some (some name, v) := by
  simp [parts, h]

theorem Json.parts_arr {items : List Json} {i : Nat} {v : Json} (h : items[i]? = some v) :
    (Json.arr items).parts[i]? = some (none, v) := by
  simp [parts, h]

theorem Json.WithoutIds.part {v w : Json} {i : Nat} {name : Option String} (h : v.WithoutIds)
    (hpart : v.parts[i]? = some (name, w)) : w.WithoutIds := by
  cases v with
  | arr items =>
    obtain ⟨item, hitem, heq⟩ := List.mem_map.mp (List.mem_of_getElem? hpart)
    obtain ⟨-, rfl⟩ := Prod.mk.inj heq
    exact h.inside (.element hitem (.here item))
  | obj members =>
    obtain ⟨m, hm, heq⟩ := List.mem_map.mp (List.mem_of_getElem? hpart)
    obtain ⟨-, rfl⟩ := Prod.mk.inj heq
    exact h.inside (.member hm (.here m.2))
  | _ => cases hpart

namespace Documents

/-- The value stands in the document, on the way that the numbers tell from the inside out, and its base
    is the URI of the document joined with each `$id` on the way.  The document's own `$id` is part of
    its URI and is not joined. -/
inductive Stands (document : Json) (uri : Uri) : List Nat → Json → Uri → Prop where
  | here : Stands document uri [] document uri
  | inside {path : List Nat} {v w : Json} {b b' : Uri} {i : Nat} {name : Option String} :
      Stands document uri path v b → v.parts[i]? = some (name, w) → schemaBase w b = .ok b' →
      Stands document uri (i :: path) w b'

/-- A document has one value in each place, and one base there. -/
theorem Stands.unique {document v v' : Json} {uri b b' : Uri} {path : List Nat}
    (h : Stands document uri path v b) (h' : Stands document uri path v' b') : v' = v ∧ b' = b := by
  induction h generalizing v' b' with
  | here =>
    cases h'
    exact ⟨rfl, rfl⟩
  | inside _ hpart hbase ih =>
    cases h' with
    | inside hstands' hpart' hbase' =>
      obtain ⟨rfl, rfl⟩ := ih hstands'
      rw [hpart] at hpart'
      obtain ⟨-, rfl⟩ := Prod.mk.inj (Option.some.inj hpart')
      rw [hbase] at hbase'
      exact ⟨rfl, (Except.ok.inj hbase').symm⟩

/-- The index looks into values under this name, if under any. -/
def Searched (name : Option String) : Prop := ∀ n ∈ name, dataKeywords.contains n = false

/-- The value stands in the document, and not in the value of a keyword for data. -/
inductive Scanned (document : Json) (uri : Uri) : List Nat → Json → Uri → Prop where
  | here : Scanned document uri [] document uri
  | inside {path : List Nat} {v w : Json} {b b' : Uri} {i : Nat} {name : Option String} :
      Scanned document uri path v b → v.parts[i]? = some (name, w) → Searched name →
      schemaBase w b = .ok b' → Scanned document uri (i :: path) w b'

/-- The schema stands right inside a value that the index comes to, and the base there is the given
    one. -/
def Below (document : Json) (uri b : Uri) (w : Json) : Prop :=
  ∃ (path : List Nat) (v : Json) (i : Nat) (name : Option String),
    Scanned document uri path v b ∧ v.parts[i]? = some (name, w) ∧ Searched name

/-- If only a document itself has an `$id`, nothing below it has. -/
theorem Below.withoutIds {members : List (String × Json)} {uri b : Uri} {w : Json}
    (h : ∀ m ∈ members, m.2.WithoutIds) (hw : Below (.obj members) uri b w) : w.WithoutIds := by
  obtain ⟨path, v, i, name, hscanned, hpart, -⟩ := hw
  induction hscanned generalizing w i name with
  | here =>
    obtain ⟨m, hm, heq⟩ := List.mem_map.mp (List.mem_of_getElem? hpart)
    obtain ⟨-, rfl⟩ := Prod.mk.inj heq
    exact h m hm
  | inside _ hv _ _ ih => exact (ih _ _ hv).part hpart

/-! ## What the index files, and under which base -/

/-- The key under which a schema is filed that stands where the base is the given one. -/
def FiledUnder (b : Uri) (schema : Json) (key : String) : Prop :=
  ∃ id uri, idOf? schema = some id ∧ resolveUri b id = .ok uri ∧
    key = if uri.isAnchored then uri.text else uri.withoutFragment.text

/-- The base with which the index goes on inside a value. -/
def innerBase (b : Uri) (v : Json) : Except SchemaError Uri :=
  match idOf? v with
  | none => .ok b
  | some id => (resolveUri b id).map fun uri => if uri.isAnchored then b else uri.withoutFragment

/-- The index works its way down from a value, whose place has the given base, and files a schema. -/
inductive Files (key : String) (w : Json) : Uri → Json → Prop where
  | here {b : Uri} : FiledUnder b w key → Files key w b w
  | inside {b b' : Uri} {v w' : Json} {i : Nat} {name : Option String} :
      innerBase b v = .ok b' → v.parts[i]? = some (name, w') → Searched name → Files key w b' w' →
      Files key w b v

section

variable {docs docs' : Documents} {b b' : Uri} {v w : Json} {key : String}

/-- Identifying a value files it under its `$id` or does nothing. -/
theorem identify_files (h : docs.identify b v = .ok (docs', b')) :
    innerBase b v = .ok b' ∧
      ∀ {key w}, docs'.get? key = some w → docs.get? key = some w ∨ Files key w b v := by
  unfold identify at h
  unfold innerBase
  cases hid : idOf? v with
  | none =>
    rw [hid] at h
    obtain ⟨rfl, rfl⟩ := Prod.mk.inj (Except.ok.inj h)
    exact ⟨rfl, .inl⟩
  | some id =>
    rw [hid] at h
    dsimp only at h ⊢
    cases huri : resolveUri b id with
    | error e =>
      rw [huri] at h
      cases h
    | ok uri =>
      rw [huri] at h
      have hset : docs.set (if uri.isAnchored then uri.text else uri.withoutFragment.text) v = docs' ∧
          (if uri.isAnchored then b else uri.withoutFragment) = b' := by
        cases hanchor : uri.isAnchored with
        | true => simpa [bind, Except.bind, pure, Except.pure, hanchor] using h
        | false => simpa [bind, Except.bind, pure, Except.pure, hanchor] using h
      obtain ⟨rfl, rfl⟩ := hset
      refine ⟨rfl, fun {key w} hw => ?_⟩
      rw [Table.get?_set] at hw
      by_cases hkey : key = if uri.isAnchored then uri.text else uri.withoutFragment.text
      · rw [if_pos hkey] at hw
        obtain rfl := Option.some.inj hw
        exact .inr (.here ⟨id, uri, hid, huri, hkey⟩)
      · rw [if_neg hkey] at hw
        exact .inl hw

mutual

/-- **What the index files, it comes to on its way down.** -/
theorem index_files : ∀ (v : Json) (b : Uri) (docs docs' : Documents), docs.index b v = .ok docs' →
    docs'.get? key = some w → docs.get? key = some w ∨ Files key w b v
  | .obj members, b, docs, docs', h, hw => by
    rw [index] at h
    cases hidentify : docs.identify b (.obj members) with
    | error e =>
      rw [hidentify] at h
      cases h
    | ok r =>
      obtain ⟨docs₁, b₁⟩ := r
      rw [hidentify] at h
      obtain ⟨hinner, hfiles₁⟩ := identify_files hidentify
      rcases indexMembers_files members b₁ docs₁ docs' h hw with hold | ⟨i, m, hm, hsearched, hfiles⟩
      · exact hfiles₁ hold
      · exact .inr (.inside hinner (Json.parts_obj hm) hsearched hfiles)
  | .arr items, b, docs, docs', h, hw => by
    rw [index] at h
    rcases indexItems_files items b docs docs' h hw with hold | ⟨i, item, hitem, hfiles⟩
    · exact .inl hold
    · have hinner : innerBase b (.arr items) = .ok b := rfl
      exact .inr (.inside hinner (Json.parts_arr hitem) nofun hfiles)
  | .null, _, docs, docs', h, hw | .bool _, _, docs, docs', h, hw | .num _, _, docs, docs', h, hw
  | .str _, _, docs, docs', h, hw => by
    obtain rfl : docs = docs' := Except.ok.inj h
    exact .inl hw

theorem indexItems_files : ∀ (items : List Json) (b : Uri) (docs docs' : Documents),
    docs.indexItems b items = .ok docs' → docs'.get? key = some w →
    docs.get? key = some w ∨ ∃ (i : Nat) (item : Json), items[i]? = some item ∧ Files key w b item
  | [], b, docs, docs', h, hw => by
    rw [indexItems] at h
    obtain rfl := Except.ok.inj h
    exact .inl hw
  | v :: rest, b, docs, docs', h, hw => by
    rw [indexItems] at h
    cases hv : docs.index b v with
    | error e =>
      rw [hv] at h
      cases h
    | ok docs₁ =>
      rw [hv] at h
      rcases indexItems_files rest b docs₁ docs' h hw with hold | ⟨i, item, hitem, hfiles⟩
      · rcases index_files v b docs docs₁ hv hold with hold | hfiles
        · exact .inl hold
        · exact .inr ⟨0, v, rfl, hfiles⟩
      · exact .inr ⟨i + 1, item, hitem, hfiles⟩

theorem indexMembers_files : ∀ (members : List (String × Json)) (b : Uri) (docs docs' : Documents),
    docs.indexMembers b members = .ok docs' → docs'.get? key = some w →
    docs.get? key = some w ∨ ∃ (i : Nat) (m : String × Json),
      members[i]? = some m ∧ Searched (some m.1) ∧ Files key w b m.2
  | [], b, docs, docs', h, hw => by
    rw [indexMembers] at h
    obtain rfl := Except.ok.inj h
    exact .inl hw
  | (name, v) :: rest, b, docs, docs', h, hw => by
    have hshift : ∀ docs₁ : Documents, docs₁.indexMembers b rest = .ok docs' →
        docs₁.get? key = some w ∨ ∃ (i : Nat) (m : String × Json),
          ((name, v) :: rest)[i]? = some m ∧ Searched (some m.1) ∧ Files key w b m.2 := by
      intro docs₁ hrest
      rcases indexMembers_files rest b docs₁ docs' hrest hw with hold | ⟨i, m, hm, hfiles⟩
      · exact .inl hold
      · exact .inr ⟨i + 1, m, hm, hfiles⟩
    rw [indexMembers] at h
    split at h
    · exact hshift docs h
    · next hdata =>
      cases hv : docs.index b v with
      | error e =>
        rw [hv] at h
        cases h
      | ok docs₁ =>
        rw [hv] at h
        rcases hshift docs₁ h with hold | hfiles
        · rcases index_files v b docs docs₁ hv hold with hold | hfiles
          · exact .inl hold
          · refine .inr ⟨0, _, rfl, ?_, hfiles⟩
            rintro _ ⟨⟩
            exact Bool.eq_false_iff.mpr hdata
        · exact .inr hfiles

end

/-- An `$id` that gives a schema a name leaves the base as it is. -/
def NameKeepsBase (b : Uri) (v : Json) : Prop :=
  ∀ id uri, idOf? v = some id → resolveUri b id = .ok uri → uri.isAnchored = true →
    uri.withoutFragment = b

theorem innerBase_eq (hname : NameKeepsBase b v) : innerBase b v = schemaBase v b := by
  unfold innerBase schemaBase
  cases hid : idOf? v with
  | none => rfl
  | some id =>
    dsimp only
    cases huri : resolveUri b id with
    | error e => rfl
    | ok uri =>
      show Except.ok (if uri.isAnchored then b else uri.withoutFragment) = .ok uri.withoutFragment
      cases hanchor : uri.isAnchored with
      | true => rw [if_pos rfl, hname id uri hid huri hanchor]
      | false => rfl

variable {document : Json} {uri : Uri}

/-- What the index files below a value, it files under the base of what the schema stands in. -/
theorem Files.filedUnder (hnames : ∀ b w, Below document uri b w → NameKeepsBase b w)
    (h : Files key w b v) (hv : Below document uri b v) :
    ∃ b, Below document uri b w ∧ FiledUnder b w key := by
  induction h with
  | here hfiled => exact ⟨_, hv, hfiled⟩
  | inside hinner hpart hsearched _ ih =>
    rw [innerBase_eq (hnames _ _ hv)] at hinner
    obtain ⟨path, u, i, name, hscanned, hv, hname⟩ := hv
    exact ih ⟨_, _, _, _, .inside hscanned hv hname hinner, hpart, hsearched⟩

/-- The index goes on with the URI of a document, if joining the document's `$id` to it changes nothing. -/
theorem innerBase_settled (h : schemaBase document uri = .ok uri) : innerBase uri document = .ok uri := by
  unfold schemaBase at h
  unfold innerBase
  cases hid : idOf? document with
  | none => rfl
  | some id =>
    rw [hid] at h
    dsimp only at h ⊢
    cases huri : resolveUri uri id with
    | error e =>
      rw [huri] at h
      cases h
    | ok joined =>
      rw [huri] at h
      have hjoined : joined.withoutFragment = uri := Except.ok.inj h
      show Except.ok (if joined.isAnchored then uri else joined.withoutFragment) = .ok uri
      rw [hjoined, ite_self]

/-! ### What is filed stays filed -/

/-- What there was before something was filed there is afterwards, if under another schema. -/
theorem Stacks.keeps {f : Documents → Except SchemaError Documents} (hf : Stacks f)
    (h : f docs = .ok docs') (hkey : (docs.get? key).isSome) : (docs'.get? key).isSome := by
  have hstacks := hf docs
  cases hown : f .empty with
  | error e =>
    rw [hown] at hstacks
    rw [show f docs = .error e from hstacks] at h
    cases h
  | ok own =>
    rw [hown] at hstacks
    obtain ⟨docs₁, hdocs₁, hget⟩ := hstacks
    rw [h] at hdocs₁
    obtain rfl := Except.ok.inj hdocs₁
    rw [hget, Option.isSome_or, hkey, Bool.or_true]

/-- A value is filed under its `$id`. -/
theorem index_files_here (h : docs.index b w = .ok docs') (hfiled : FiledUnder b w key) :
    (docs'.get? key).isSome := by
  obtain ⟨id, uri, hid, huri, rfl⟩ := hfiled
  cases w with
  | obj members =>
    rw [index, identify, hid] at h
    dsimp only at h
    rw [huri] at h
    simp only [bind, Except.bind, pure, Except.pure] at h
    cases hanchor : uri.isAnchored with
    | true =>
      rw [hanchor] at h
      refine (indexMembers_stacks members b).keeps h ?_
      simp [Table.get?_set]
    | false =>
      rw [hanchor] at h
      refine (indexMembers_stacks members uri.withoutFragment).keeps h ?_
      simp [Table.get?_set]
  | _ => cases hid

theorem indexItems_part {items : List Json} (h : docs.indexItems b items = .ok docs') {i : Nat}
    (hi : items[i]? = some w) : ∃ docs₁ docs₂ : Documents, docs₁.index b w = .ok docs₂ ∧
      ∀ key, (docs₂.get? key).isSome → (docs'.get? key).isSome := by
  induction items generalizing docs i with
  | nil => cases hi
  | cons item rest ih =>
    rw [indexItems] at h
    cases hitem : docs.index b item with
    | error e =>
      rw [hitem] at h
      cases h
    | ok docs₁ =>
      rw [hitem] at h
      cases i with
      | zero =>
        obtain rfl := Option.some.inj hi
        exact ⟨docs, docs₁, hitem, fun key => (indexItems_stacks rest b).keeps h⟩
      | succ i => exact ih h hi

theorem indexMembers_part {members : List (String × Json)} (h : docs.indexMembers b members = .ok docs')
    {i : Nat} {name : String} (hi : members[i]? = some (name, w)) (hname : Searched (some name)) :
    ∃ docs₁ docs₂ : Documents, docs₁.index b w = .ok docs₂ ∧
      ∀ key, (docs₂.get? key).isSome → (docs'.get? key).isSome := by
  induction members generalizing docs i with
  | nil => cases hi
  | cons m rest ih =>
    obtain ⟨name', v⟩ := m
    rw [indexMembers] at h
    cases i with
    | zero =>
      obtain ⟨rfl, rfl⟩ := Prod.mk.inj (Option.some.inj hi)
      rw [hname _ rfl, if_neg Bool.false_ne_true] at h
      cases hv : docs.index b v with
      | error e =>
        rw [hv] at h
        cases h
      | ok docs₁ =>
        rw [hv] at h
        exact ⟨docs, docs₁, hv, fun key => (indexMembers_stacks rest b).keeps h⟩
    | succ i =>
      split at h
      · exact ih h hi
      · cases hv : docs.index b v with
        | error e =>
          rw [hv] at h
          cases h
        | ok docs₁ =>
          rw [hv] at h
          exact ih h hi

/-- The index looks into each part of a value, with the base inside it. -/
theorem index_part (h : docs.index b v = .ok docs') (hinner : innerBase b v = .ok b') {i : Nat}
    {name : Option String} (hpart : v.parts[i]? = some (name, w)) (hname : Searched name) :
    ∃ docs₁ docs₂ : Documents, docs₁.index b' w = .ok docs₂ ∧
      ∀ key, (docs₂.get? key).isSome → (docs'.get? key).isSome := by
  cases v with
  | obj members =>
    rw [index] at h
    cases hidentify : docs.identify b (.obj members) with
    | error e =>
      rw [hidentify] at h
      cases h
    | ok r =>
      obtain ⟨docs₁, b₁⟩ := r
      rw [hidentify] at h
      obtain ⟨hinner₁, -⟩ := identify_files hidentify
      rw [hinner] at hinner₁
      obtain rfl := Except.ok.inj hinner₁
      rw [Json.parts, List.getElem?_map, Option.map_eq_some_iff] at hpart
      obtain ⟨m, hm, hpart⟩ := hpart
      obtain ⟨rfl, rfl⟩ := Prod.mk.inj hpart
      exact indexMembers_part h hm hname
  | arr items =>
    obtain rfl := Except.ok.inj hinner
    rw [Json.parts, List.getElem?_map, Option.map_eq_some_iff] at hpart
    obtain ⟨item, hitem, hpart⟩ := hpart
    obtain ⟨-, rfl⟩ := Prod.mk.inj hpart
    exact indexItems_part h hitem
  | _ => cases hpart

/-- The index goes down to what it comes to with the base of the place. -/
theorem index_scanned (hdocument : schemaBase document uri = .ok uri)
    (hnames : ∀ b w, Below document uri b w → NameKeepsBase b w)
    (h : docs.index uri document = .ok docs') {path : List Nat} (hv : Scanned document uri path v b)
    {i : Nat} {name : Option String} (hpart : v.parts[i]? = some (name, w)) (hname : Searched name) :
    ∃ docs₁ docs₂ : Documents, docs₁.index b w = .ok docs₂ ∧
      ∀ key, (docs₂.get? key).isSome → (docs'.get? key).isSome := by
  induction hv generalizing i name w with
  | here => exact index_part h (innerBase_settled hdocument) hpart hname
  | inside hscanned hpart₀ hname₀ hbase ih =>
    obtain ⟨docs₁, docs₂, hindex, hkeeps⟩ := ih hpart₀ hname₀
    rw [← innerBase_eq (hnames _ _ ⟨_, _, _, _, hscanned, hpart₀, hname₀⟩)] at hbase
    obtain ⟨docs₃, docs₄, hindex', hkeeps'⟩ := index_part hindex hbase hpart hname
    exact ⟨docs₃, docs₄, hindex', fun key hkey => hkeeps key (hkeeps' key hkey)⟩

/-- Each `$id` below the document is filed under the base of what its schema stands in, and nothing else
    is filed but the document itself. -/
def FiledByPlace (document : Json) (uri : Uri) : Prop :=
  ∀ docs docs' : Documents, docs.index uri document = .ok docs' →
    (∀ b w key, Below document uri b w → FiledUnder b w key → (docs'.get? key).isSome) ∧
    ∀ key w, docs'.get? key = some w → docs.get? key = some w ∨
      (w = document ∧ FiledUnder uri document key) ∨ ∃ b, Below document uri b w ∧ FiledUnder b w key

/-- **The index counts each `$id` once**, if joining the document's own `$id` to its URI changes nothing
    and names leave the base alone. -/
theorem filedByPlace (hdocument : schemaBase document uri = .ok uri)
    (hnames : ∀ b w, Below document uri b w → NameKeepsBase b w) : FiledByPlace document uri := by
  refine fun docs docs' h => ⟨fun b w key hbelow hfiled => ?_, fun key w hw => ?_⟩
  · obtain ⟨path, v, i, name, hscanned, hpart, hname⟩ := hbelow
    obtain ⟨docs₁, docs₂, hindex, hkeeps⟩ := index_scanned hdocument hnames h hscanned hpart hname
    exact hkeeps key (index_files_here hindex hfiled)
  · rcases index_files document uri docs docs' h hw with hold | hfiles
    · exact .inl hold
    · refine .inr ?_
      cases hfiles with
      | here hfiled => exact .inl ⟨rfl, hfiled⟩
      | inside hinner hpart hsearched hfiles =>
        rw [innerBase_settled hdocument] at hinner
        obtain rfl := Except.ok.inj hinner
        exact .inr (hfiles.filedUnder hnames ⟨_, _, _, _, .here, hpart, hsearched⟩)

end

/-! ## What a reference finds -/

/-- A reference finds the document that is filed under its URI, or under its name, and leads to what
    stands in it. -/
structure Finds (docs : Documents) (place : Uri) (reference : String) (document : Json) (uri : Uri)
    (path : List Nat) (target : Target) : Prop where
  resolved : docs.resolve place reference = .ok target
  filed : ∃ joined, resolveUri place reference = .ok joined ∧ uri = joined.withoutFragment ∧
    docs.get? (if joined.isAnchored then joined.text else uri.text) = some document
  stands : Stands document uri path target.schema target.base

/-- The steps to what a pointer leads to. -/
theorem resolve_pointer {docs : Documents} {place joined b : Uri} {reference : String}
    {document v : Json} {pointer : List Char} {tokens : List String}
    (hjoined : resolveUri place reference = .ok joined) (hanchor : joined.isAnchored = false)
    (hdocument : docs.get? joined.withoutFragment.text = some document)
    (hdecoded : Percent.decode? (joined.fragment.getD []) = some pointer)
    (htokens : Pointer.parse? (String.ofList pointer) = some tokens)
    (hfollow : follow document joined.withoutFragment tokens = .ok (some (v, b))) :
    docs.resolve place reference = .ok ⟨v, b,
      joined.withoutFragment.text ++ "#" ++ String.ofList pointer, String.ofList pointer⟩ := by
  unfold resolve
  simp only [hjoined, bind, Except.bind, hanchor, hdocument, hdecoded, htokens, hfollow]
  rfl

theorem exists_getElem?_of_lookup {members : List (String × Json)} {name : String} {v : Json}
    (h : members.lookup name = some v) : ∃ i : Nat, members[i]? = some (name, v) := by
  obtain ⟨i, hi, heq⟩ := List.mem_iff_getElem.mp (mem_of_lookup h)
  exact ⟨i, List.getElem?_eq_some_iff.mpr ⟨hi, heq⟩⟩

theorem step?_part {v w : Json} {token : String} (h : step? v token = some w) :
    ∃ (i : Nat) (name : Option String), v.parts[i]? = some (name, w) := by
  unfold step? at h
  split at h
  · next members =>
    obtain ⟨i, hi⟩ := exists_getElem?_of_lookup h
    exact ⟨i, some token, Json.parts_obj hi⟩
  · next items =>
    obtain ⟨i, -, hi⟩ := Option.bind_eq_some_iff.mp h
    exact ⟨i, none, Json.parts_arr hi⟩
  · cases h

/-- The tokens of a pointer join each `$id` that they come to. -/
theorem follow_stands {document w : Json} {uri b' : Uri} (tokens : List String) :
    ∀ {path : List Nat} {v : Json} {b : Uri}, Stands document uri path v b →
      follow v b tokens = .ok (some (w, b')) → ∃ path, Stands document uri path w b' := by
  induction tokens with
  | nil =>
    intro path v b hv h
    obtain ⟨rfl, rfl⟩ := Prod.mk.inj (Option.some.inj (Except.ok.inj h))
    exact ⟨path, hv⟩
  | cons token rest ih =>
    intro path v b hv h
    rw [follow] at h
    cases hstep : step? v token with
    | none =>
      rw [hstep] at h
      cases h
    | some inner =>
      rw [hstep] at h
      dsimp only at h
      obtain ⟨i, name, hpart⟩ := step?_part hstep
      cases hbase : schemaBase inner b with
      | error e =>
        rw [hbase] at h
        cases h
      | ok b₁ =>
        rw [hbase] at h
        exact ih (.inside hv hpart hbase) h

theorem exists_finds {docs : Documents} {place : Uri} {reference : String} {target : Target}
    (h : docs.resolve place reference = .ok target) :
    ∃ document uri path, Finds docs place reference document uri path target := by
  obtain ⟨joined, huri, hfound⟩ := exists_foundAt h
  cases hfound with
  | name hanchor hschema =>
    refine ⟨_, joined.withoutFragment, [], h, ⟨joined, huri, rfl, ?_⟩, .here⟩
    rw [if_pos hanchor, hschema]
  | pointer hanchor hroot _ _ hfollow =>
    obtain ⟨path, hstands⟩ := follow_stands _ .here hfollow
    refine ⟨_, joined.withoutFragment, path, h, ⟨joined, huri, rfl, ?_⟩, hstands⟩
    rw [if_neg (Bool.eq_false_iff.mp hanchor), hroot]

end Documents

/-! ## What lowering comes to -/

/-- The way from an object to a schema that one of its keywords applies: to the value of the keyword, to
    an entry of a list there, or to an entry of a map of schemas. -/
inductive Json.Under (members : List (String × Json)) : List Nat → Json → Prop where
  | single {i : Nat} {name : String} {s : Json} : members[i]? = some (name, s) → Under members [i] s
  | listed {i j : Nat} {name : String} {ss : List Json} {s : Json} :
      members[i]? = some (name, .arr ss) → ss[j]? = some s → Under members [j, i] s
  | named {i j : Nat} {name : String} {ms : List (String × Json)} {m : String × Json} :
      members[i]? = some (name, .obj ms) → name ∈ schemaMapKeywords → ms[j]? = some m →
      Under members [j, i] m.2

namespace Environment

/-- Lowering a root comes to an object, which stands in a document unless a custom keyword has made it
    up, and resolves the references of the object from a base. -/
inductive Meets (env : Environment) (root : Json) (base : Uri) :
    Option (Json × Uri × List Nat) → List (String × Json) → Uri → Prop where
  | root {members : List (String × Json)} {handed : Uri} :
      root = .obj members → schemaBase root base = .ok handed →
      Meets env root base (some (root, base, [])) members handed
  | applied {place : Option (Json × Uri × List Nat)} {members ms : List (String × Json)}
      {handed handed' : Uri} {rule : Rule} {k : BuiltinKeyword} {position : Position}
      {data : Option DataRef} {way : List Nat} :
      Meets env root base place members handed → env.Reads members rule →
      rule.implementation = .builtin k → (rule.place env members position data).Applies k (.obj ms) →
      Json.Under members way (.obj ms) → schemaBase (.obj ms) handed = .ok handed' →
      Meets env root base (place.map fun p => (p.1, p.2.1, way ++ p.2.2)) ms handed'
  | referred {place : Option (Json × Uri × List Nat)} {members ms : List (String × Json)}
      {handed handed' : Uri} {rule : Rule} {document : Json} {uri : Uri} {path : List Nat}
      {target : Target} :
      Meets env root base place members handed → env.Reads members rule →
      rule.implementation = .builtin .ref →
      env.documents.Finds handed (rule.reference members) document uri path target →
      target.schema = .obj ms → schemaBase target.schema target.base = .ok handed' →
      Meets env root base (some (document, uri, path)) ms handed'
  | expanded {place : Option (Json × Uri × List Nat)} {members ms : List (String × Json)}
      {handed handed' : Uri} {rule : Rule} {d : KeywordDefinition}
      {expand : Json → List (String × Json) → Json} :
      Meets env root base place members handed → env.Reads members rule →
      rule.implementation = .custom d → d.expand = some expand →
      expand ((members.lookup rule.keyword).getD .null) members = .obj ms →
      schemaBase (.obj ms) handed = .ok handed' → Meets env root base none ms handed'

/-- Joining an `$id` to a base that it is part of changes nothing: neither for the root nor for what a
    reference of an object that lowering comes to finds. -/
structure Settled (env : Environment) (root : Json) (base : Uri) : Prop where
  start : schemaBase root base = .ok base
  document : ∀ {place members handed rule document uri path target},
    env.Meets root base place members handed → env.Reads members rule →
    rule.implementation = .builtin .ref →
    env.documents.Finds handed (rule.reference members) document uri path target →
    schemaBase document uri = .ok uri
  target : ∀ {place members handed rule document uri path target},
    env.Meets root base place members handed → env.Reads members rule →
    rule.implementation = .builtin .ref →
    env.documents.Finds handed (rule.reference members) document uri path target →
    schemaBase target.schema target.base = .ok target.base
  /-- A map of schemas gives a schema to `$id`, if anything. -/
  maps : ∀ {place members handed name ms}, env.Meets root base place members handed →
    (name, .obj ms) ∈ members → name ∈ schemaMapKeywords → idOf? (.obj ms) = none
  /-- The name of a schema leaves the base alone. -/
  names : ∀ {document uri path members handed b w},
    env.Meets root base (some (document, uri, path)) members handed →
    Documents.Below document uri b w → Documents.NameKeepsBase b w
  /-- A reference that reads like the URI of the root is that URI. -/
  spelled : ∀ {place members handed rule joined}, env.Meets root base place members handed →
    env.Reads members rule → rule.implementation = .builtin .ref →
    resolveUri handed (rule.reference members) = .ok joined →
    (if joined.isAnchored then joined.text else joined.withoutFragment.text) = base.text →
    joined.withoutFragment = base

section

variable {env : Environment} {root : Json} {base : Uri}

open Documents

/-- The way to a schema that a keyword applies joins no `$id` but that of the schema. -/
theorem stands_under {document : Json} {uri handed handed' : Uri} {path way : List Nat}
    {members : List (String × Json)} {s : Json}
    (hmaps : ∀ name ms, (name, .obj ms) ∈ members → name ∈ schemaMapKeywords → idOf? (.obj ms) = none)
    (hstands : Stands document uri path (.obj members) handed) (hway : Json.Under members way s)
    (hbase : schemaBase s handed = .ok handed') : Stands document uri (way ++ path) s handed' := by
  cases hway with
  | single hi => exact .inside hstands (Json.parts_obj hi) hbase
  | listed hi hj =>
    have hlist := Stands.inside hstands (Json.parts_obj hi) (show schemaBase (.arr _) handed = .ok handed from rfl)
    exact .inside hlist (Json.parts_arr hj) hbase
  | @named _ _ _ ms _ hi hname hj =>
    have hnone := hmaps _ _ (List.mem_of_getElem? hi) hname
    have hkeeps : schemaBase (.obj ms) handed = .ok handed := by rw [schemaBase, hnone]
    exact .inside (.inside hstands (Json.parts_obj hi) hkeeps) (Json.parts_obj hj) hbase

/-- **Lowering hands on the base of the place**: what it comes to in a document stands there, and the
    base of its references counts each `$id` once. -/
theorem Meets.stands (hsettled : env.Settled root base) {place : Option (Json × Uri × List Nat)}
    {members : List (String × Json)} {handed : Uri} (h : env.Meets root base place members handed) :
    ∀ p ∈ place, Stands p.1 p.2.1 p.2.2 (.obj members) handed := by
  induction h with
  | root hroot hhanded =>
    rintro p ⟨⟩
    rw [hsettled.start] at hhanded
    obtain rfl := Except.ok.inj hhanded
    rw [← hroot]
    exact .here
  | applied hmeets _ _ _ hway hhanded ih =>
    intro p hp
    obtain ⟨q, hq, rfl⟩ := Option.map_eq_some_iff.mp hp
    exact stands_under (fun name ms => hsettled.maps hmeets) (ih q hq) hway hhanded
  | referred hmeets hreads hrule hfinds htarget hhanded _ =>
    rintro p ⟨⟩
    rw [hsettled.target hmeets hreads hrule hfinds] at hhanded
    obtain rfl := Except.ok.inj hhanded
    rw [← htarget]
    exact hfinds.stands
  | expanded => exact fun p hp => nomatch hp

/-- The URI of a document that lowering comes to has the document's `$id` in it already. -/
theorem Meets.document_settled (hsettled : env.Settled root base)
    {place : Option (Json × Uri × List Nat)} {members : List (String × Json)} {handed : Uri}
    (h : env.Meets root base place members handed) :
    ∀ p ∈ place, schemaBase p.1 p.2.1 = .ok p.2.1 := by
  induction h with
  | root =>
    rintro p ⟨⟩
    exact hsettled.start
  | applied _ _ _ _ _ _ ih =>
    intro p hp
    obtain ⟨q, hq, rfl⟩ := Option.map_eq_some_iff.mp hp
    exact ih q hq
  | referred hmeets hreads hrule hfinds =>
    rintro p ⟨⟩
    exact hsettled.document hmeets hreads hrule hfinds
  | expanded => exact fun p hp => nomatch hp

/-- The rules for keywords of draft-07 are under the names of these. -/
def NamesBuiltins (env : Environment) : Prop :=
  ∀ group ∈ env.registry.groups, ∀ rule ∈ group.rules, ∀ k, rule.implementation = .builtin k →
    rule.keyword = k.name

/-- There is a way to a schema that a keyword applies. -/
theorem under_of_applies {rule : Rule} {k : BuiltinKeyword} {members : List (String × Json)}
    {position : Position} {data : Option DataRef} {ms : List (String × Json)}
    (hname : rule.keyword = k.name)
    (h : (rule.place env members position data).Applies k (.obj ms)) :
    ∃ way, Json.Under members way (.obj ms) := by
  rcases h.hasSubschema hname with hnull | hinside
  · cases hnull
  · generalize hs : Json.obj ms = s at hinside
    cases hinside with
    | single _ hlookup =>
      obtain ⟨i, hi⟩ := exists_getElem?_of_lookup hlookup
      exact ⟨[i], .single hi⟩
    | listed _ hlookup hmem =>
      obtain ⟨i, hi⟩ := exists_getElem?_of_lookup hlookup
      obtain ⟨j, hj, heq⟩ := List.mem_iff_getElem.mp hmem
      exact ⟨[j, i], .listed hi (List.getElem?_eq_some_iff.mpr ⟨hj, heq⟩)⟩
    | named hkeyword hlookup hm =>
      obtain ⟨i, hi⟩ := exists_getElem?_of_lookup hlookup
      obtain ⟨j, hj, heq⟩ := List.mem_iff_getElem.mp hm
      exact ⟨[j, i], .named hi hkeyword (List.getElem?_eq_some_iff.mpr ⟨hj, heq⟩)⟩

/-- Lowering comes to the object, if it is one, at the position. -/
def MeetsAt (env : Environment) (root : Json) (base : Uri) (schema : Json) (position : Position) : Prop :=
  ∀ members handed, schema = .obj members → schemaBase schema position.base = .ok handed →
    ∃ place, env.Meets root base place members handed

/-- What an object hands on, lowering comes to. -/
theorem MeetsAt.handed (hnames : env.NamesBuiltins) {members : List (String × Json)}
    {position : Position} {b : Uri} (h : env.MeetsAt root base (.obj members) position)
    (hb : schemaBase (.obj members) position.base = .ok b) {s : Json} {at' : Position}
    (hs : env.Hands members { position with base := b } s at') : env.MeetsAt root base s at' := by
  obtain ⟨place, hmeets⟩ := h members b rfl hb
  intro ms handed hms hhanded
  cases hs with
  | @applied rule k data _ _ hreads hrule happlies hat =>
    subst hms
    have hname : rule.keyword = k.name := by
      obtain ⟨group, hgroup, hmem⟩ := hreads
      exact hnames group hgroup rule (List.mem_of_mem_filter hmem) k hrule
    obtain ⟨way, hway⟩ := under_of_applies hname happlies
    rw [hat] at hhanded
    exact ⟨_, .applied hmeets hreads hrule happlies hway hhanded⟩
  | expanded hreads hrule hd hat =>
    rw [hat, hms] at hhanded
    exact ⟨none, .expanded hmeets hreads hrule hd hms hhanded⟩
  | referred hreads hrule hresolve =>
    obtain ⟨document, uri, path, hfinds⟩ := exists_finds hresolve
    exact ⟨_, .referred hmeets hreads hrule hfinds hms hhanded⟩

end
end Environment

end JsonSchema
