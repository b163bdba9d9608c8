import JsonSchema.Proofs.Reference.Bases
import Mathlib.Data.List.DropRight

/-!
# Which schemas the index finds

The index goes down into every value of a document and skips what stands under the names of keywords whose
values are data.  It does so in all objects alike, also in those whose names are not keywords: a schema that
is called `default` among the `definitions` is passed over, with all that is inside it.

**That is all it misses.**  A schema that is reached through places of schemas alone, and whose absolute URI
nothing else claims, is found under it exactly if no map of schemas on the way lists it, or what it stands
in, under such a name (`indexed_iff`).
-/

set_option autoImplicit false

namespace JsonSchema

namespace Documents

/-! ## The way down to a schema -/

/-- On its way down from a value, whose place has the given base, the index comes along the numbered parts
    to a schema and files it. -/
inductive FilesAt (key : String) (w : Json) : List Nat → Uri → Json → Prop where
  | here {b : Uri} : FiledUnder b w key → FilesAt key w [] b w
  | inside {path : List Nat} {b b' : Uri} {v part : Json} {i : Nat} {name : Option String} :
      innerBase b v = .ok b' → v.parts[i]? = some (name, part) → Searched name →
      FilesAt key w path b' part → FilesAt key w (i :: path) b v

/-- A schema stands in a value, whose place has the given base, and is reached through places of schemas
    alone: along the numbered parts, and under the listed names in the maps of schemas among them.  Its own
    place has the base that the `$id`s around it give. -/
inductive SchemaAt (s : Json) (place : Uri) : List String → List Nat → Uri → Json → Prop where
  | here : SchemaAt s place [] [] place s
  | single {keyword : String} {members : List (String × Json)} {i : Nat} {v : Json} {b b' : Uri}
      {names : List String} {path : List Nat} :
      keyword ∈ schemaKeywords → innerBase b (.obj members) = .ok b' → members[i]? = some (keyword, v) →
      SchemaAt s place names path b' v → SchemaAt s place names (i :: path) b (.obj members)
  | listed {keyword : String} {members : List (String × Json)} {i j : Nat} {vs : List Json} {v : Json}
      {b b' : Uri} {names : List String} {path : List Nat} :
      keyword ∈ schemaKeywords → innerBase b (.obj members) = .ok b' →
      members[i]? = some (keyword, .arr vs) → vs[j]? = some v →
      SchemaAt s place names path b' v → SchemaAt s place names (i :: j :: path) b (.obj members)
  | named {keyword name : String} {members ms : List (String × Json)} {i j : Nat} {v : Json} {b b' : Uri}
      {names : List String} {path : List Nat} :
      keyword ∈ schemaMapKeywords → innerBase b (.obj members) = .ok b' →
      members[i]? = some (keyword, .obj ms) →
      -- what a map lists are schemas, under `$id` as well
      idOf? (.obj ms) = none → ms[j]? = some (name, v) →
      SchemaAt s place names path b' v → SchemaAt s place (name :: names) (i :: j :: path) b (.obj members)

section

variable {docs docs' : Documents} {key : String} {b place : Uri} {v w s : Json} {path : List Nat}
  {names : List String}

theorem Files.exists_path (h : Files key w b v) : ∃ path, FilesAt key w path b v := by
  induction h with
  | here hfiled => exact ⟨[], .here hfiled⟩
  | inside hinner hpart hname _ ih =>
    obtain ⟨path, hfiles⟩ := ih
    exact ⟨_ :: path, .inside hinner hpart hname hfiles⟩

/-- What the index comes to, it files. -/
theorem FilesAt.isSome (h : FilesAt key w path b v) : ∀ {docs docs' : Documents},
    docs.index b v = .ok docs' → (docs'.get? key).isSome := by
  induction h with
  | here hfiled => exact fun hindex => index_files_here hindex hfiled
  | inside hinner hpart hname _ ih =>
    intro docs docs' hindex
    obtain ⟨_, _, hindex', hkeeps⟩ := index_part hindex hinner hpart hname
    exact hkeeps key (ih hindex')

/-- No keyword for schemas is one for data. -/
theorem searched_keyword {keyword : String} (h : keyword ∈ schemaKeywords ∨ keyword ∈ schemaMapKeywords) :
    Searched (some keyword) := by
  have hapart : ∀ k ∈ schemaKeywords ++ schemaMapKeywords, dataKeywords.contains k = false := by decide
  rintro _ ⟨⟩
  exact hapart _ (List.mem_append.mpr h)

/-- **The index finds every schema that is not under the name of a keyword for data.** -/
theorem SchemaAt.filesAt (h : SchemaAt s place names path b v) (hfiled : FiledUnder place s key)
    (hnames : ∀ name ∈ names, name ∉ dataKeywords) : FilesAt key s path b v := by
  induction h with
  | here => exact .here hfiled
  | single hkeyword hinner hi _ ih =>
    exact .inside hinner (Json.parts_obj hi) (searched_keyword (.inl hkeyword)) (ih hnames)
  | listed hkeyword hinner hi hj _ ih =>
    refine .inside hinner (Json.parts_obj hi) (searched_keyword (.inl hkeyword)) ?_
    exact .inside rfl (Json.parts_arr hj) (fun _ h => absurd h (Option.not_mem_none _)) (ih hnames)
  | @named _ name _ ms _ _ _ _ _ _ _ hkeyword hinner hi hmap hj _ ih =>
    obtain ⟨hname, hnames⟩ := List.forall_mem_cons.mp hnames
    have hsearched : Searched (some name) := by
      rintro _ ⟨⟩
      simpa using hname
    have hkeeps : ∀ b, innerBase b (.obj ms) = .ok b := fun b => by rw [innerBase, hmap]
    refine .inside hinner (Json.parts_obj hi) (searched_keyword (.inr hkeyword)) ?_
    exact .inside (hkeeps _) (Json.parts_obj hj) hsearched (ih hnames)

/-- A way that the index goes leads past no such name, and to the one schema that is there. -/
theorem SchemaAt.of_filesAt (h : SchemaAt s place names path b v) {b' : Uri}
    (hfiles : FilesAt key w path b' v) : w = s ∧ ∀ name ∈ names, name ∉ dataKeywords := by
  induction h generalizing b' with
  | here =>
    cases hfiles
    exact ⟨rfl, fun _ h => absurd h List.not_mem_nil⟩
  | single _ _ hi _ ih =>
    cases hfiles with
    | inside _ hpart _ hfiles =>
      rw [Json.parts_obj hi] at hpart
      obtain ⟨-, rfl⟩ := Prod.mk.inj (Option.some.inj hpart)
      exact ih hfiles
  | listed _ _ hi hj _ ih =>
    cases hfiles with
    | inside _ hpart _ hfiles =>
      rw [Json.parts_obj hi] at hpart
      obtain ⟨-, rfl⟩ := Prod.mk.inj (Option.some.inj hpart)
      cases hfiles with
      | inside _ hpart _ hfiles =>
        rw [Json.parts_arr hj] at hpart
        obtain ⟨-, rfl⟩ := Prod.mk.inj (Option.some.inj hpart)
        exact ih hfiles
  | named _ _ hi _ hj _ ih =>
    cases hfiles with
    | inside _ hpart _ hfiles =>
      rw [Json.parts_obj hi] at hpart
      obtain ⟨-, rfl⟩ := Prod.mk.inj (Option.some.inj hpart)
      cases hfiles with
      | inside _ hpart hname hfiles =>
        rw [Json.parts_obj hj] at hpart
        obtain ⟨rfl, rfl⟩ := Prod.mk.inj (Option.some.inj hpart)
        obtain ⟨hw, hnames⟩ := ih hfiles
        refine ⟨hw, List.forall_mem_cons.mpr ⟨?_, hnames⟩⟩
        simpa using hname _ rfl

end

/-! ## What the visible documents claim -/

section

variable (root : Json) (base : Uri) (cache : Table String Json)

/-- A document that references can lead to, with the key under which it is filed and the base with which
    the index begins. -/
inductive Visible : String → Uri → Json → Prop where
  | root : Visible base.text base root
  | cached {key : String} {uri : Uri} {document : Json} : (key, document) ∈ cache.entries →
      Uri.parse key = .ok uri → Visible key uri document

/-- A document claims its key for itself, and for the schemas that the index comes to in it what they are
    filed under. -/
inductive Claims (uri : String) : Json → List Nat → Json → Prop where
  | document {start : Uri} {document : Json} : Visible root base cache uri start document →
      Claims uri document [] document
  | schema {key : String} {start : Uri} {document w : Json} {path : List Nat} :
      Visible root base cache key start document → FilesAt uri w path start document →
      Claims uri document path w

end

section

variable {root : Json} {base : Uri} {cache : Table String Json} {docs : Documents} {uri : String}
  {document w : Json} {path : List Nat}

/-- A document by itself files what it claims. -/
theorem add_get? {key : String} {start : Uri} (hvisible : Visible root base cache key start document)
    (h : add .empty key start document = .ok docs) (hw : docs.get? uri = some w) :
    ∃ path, Claims root base cache uri document path w := by
  rcases index_files document start _ docs h hw with hkey | hfiles
  · rw [Table.get?_set] at hkey
    split at hkey
    · next heq =>
      subst heq
      obtain rfl := Option.some.inj hkey
      exact ⟨[], .document hvisible⟩
    · cases hkey
  · obtain ⟨path, hfiles⟩ := hfiles.exists_path
    exact ⟨path, .schema hvisible hfiles⟩

/-- A document of a cache is filed by itself like any other. -/
theorem exists_add_of_file {entry : String × Json} (h : file entry .empty = .ok docs) :
    ∃ start, Uri.parse entry.1 = .ok start ∧ add .empty entry.1 start entry.2 = .ok docs := by
  unfold file at h
  cases hparse : Uri.parse entry.1 with
  | error e =>
    rw [hparse] at h
    cases h
  | ok start =>
    rw [hparse] at h
    exact ⟨start, rfl, h⟩

/-- What is visible is filed document by document, and what is filed under a URI is filed by one of them. -/
theorem visibleFrom_eq_ok (h : visibleFrom root base cache = .ok docs) :
    (∃ own, add .empty base.text base root = .ok own ∧
      ∀ uri, docs.get? uri = (own.get? uri).or (latest? uri cache.entries)) ∧
    ∀ entry ∈ cache.entries, ∃ own, file entry .empty = .ok own ∧
      ∀ uri, filedAs? uri entry = own.get? uri := by
  have hcases := visibleFrom_cases root base cache
  rw [h] at hcases
  split at hcases
  · cases hcases
  · next hfine =>
    split at hcases
    · cases hcases
    · next own hown =>
      obtain ⟨_, ⟨⟩, hget⟩ := hcases
      refine ⟨⟨own, hown, hget⟩, fun entry hentry => ?_⟩
      have hfailure := List.findSome?_eq_none_iff.mp hfine entry hentry
      unfold failure? at hfailure
      unfold filedAs?
      cases hfile : file entry .empty with
      | error e =>
        rw [hfile] at hfailure
        cases hfailure
      | ok own' => exact ⟨own', rfl, fun _ => rfl⟩

/-- **What is filed is claimed.** -/
theorem exists_claims (h : visibleFrom root base cache = .ok docs) (hw : docs.get? uri = some w) :
    ∃ document path, Claims root base cache uri document path w := by
  obtain ⟨⟨own, hown, hget⟩, hentries⟩ := visibleFrom_eq_ok h
  rw [hget, Option.or_eq_some_iff] at hw
  rcases hw with hroot | ⟨-, hcached⟩
  · exact ⟨root, add_get? .root hown hroot⟩
  · obtain ⟨entry, hentry, hfiled⟩ := List.exists_of_findSome?_eq_some hcached
    have hmem := List.mem_reverse.mp hentry
    obtain ⟨own', hfile, hget'⟩ := hentries entry hmem
    obtain ⟨start, hparse, hadd⟩ := exists_add_of_file hfile
    rw [hget'] at hfiled
    exact ⟨entry.2, add_get? (.cached hmem hparse) hadd hfiled⟩

/-- What a document files by itself is filed among all, if perhaps by another. -/
theorem Visible.isSome {key : String} {start : Uri} (hvisible : Visible root base cache key start document)
    (h : visibleFrom root base cache = .ok docs)
    (hfiles : ∀ own, add .empty key start document = .ok own → (own.get? uri).isSome) :
    (docs.get? uri).isSome := by
  obtain ⟨⟨own, hown, hget⟩, hentries⟩ := visibleFrom_eq_ok h
  rw [hget, Option.isSome_or, Bool.or_eq_true]
  cases hvisible with
  | root => exact .inl (hfiles own hown)
  | @cached _ _ _ hentry hparse =>
    obtain ⟨own', hfile, hget'⟩ := hentries _ hentry
    obtain ⟨start', hparse', hadd⟩ := exists_add_of_file hfile
    obtain rfl := Except.ok.inj (hparse.symm.trans hparse')
    refine .inr (List.findSome?_isSome_iff.mpr ⟨_, List.mem_reverse.mpr hentry, ?_⟩)
    rw [hget']
    exact hfiles own' hadd

/-- **What is claimed is filed**, if perhaps by another document. -/
theorem Claims.isSome (hclaims : Claims root base cache uri document path w)
    (h : visibleFrom root base cache = .ok docs) : (docs.get? uri).isSome := by
  cases hclaims with
  | @document start _ hvisible =>
    refine hvisible.isSome h fun own hown => (index_stacks document start).keeps hown ?_
    simp [Table.get?_set]
  | schema hvisible hfiles => exact hvisible.isSome h fun own hown => hfiles.isSome hown

end

/-! ## Resolving the URI of a schema -/

/-- The URI under which a schema is known whose `$id` has been joined: the whole of it, if its fragment is a
    name, and else what is in front of the fragment. -/
def knownAs (joined : Uri) : Uri := if joined.isAnchored then joined else joined.withoutFragment

/-- A reference from a place stands for a URI, which it may write with an empty fragment. -/
def StandsFor (place : Uri) (reference : String) (uri : Uri) : Prop :=
  resolveUri place reference = .ok uri ∨
    uri.fragment = none ∧ resolveUri place reference = .ok { uri with fragment := some [] }

theorem withoutFragment_again (u : Uri) : u.withoutFragment.withoutFragment = u.withoutFragment := by
  obtain ⟨scheme, authority, path, query, fragment⟩ := u
  cases path with
  | segments ss => rfl
  | rootless t =>
    cases query with
    | none => simp [Uri.withoutFragment, List.dropWhile_idempotent]
    | some q => rfl

section

variable {docs : Documents} {place joined : Uri} {reference id : String} {s : Json}

/-- A reference that stands for the URI of a schema leads to what is filed under the URI. -/
theorem resolve_of_standsFor (h : StandsFor place reference (knownAs joined)) :
    (∃ target, docs.resolve place reference = .ok target ∧ target.schema = s) ↔
      docs.get? (knownAs joined).text = some s := by
  cases hanchor : joined.isAnchored with
  | true =>
    have hknown : knownAs joined = joined := if_pos hanchor
    rw [hknown] at h ⊢
    have hresolved : resolveUri place reference = .ok joined := by
      refine h.resolve_right fun hempty => ?_
      rw [Uri.isAnchored, hempty.1] at hanchor
      cases hanchor
    unfold resolve
    simp only [hresolved, bind, Except.bind, hanchor, if_true]
    cases docs.get? joined.text with
    | none => simp [throw, throwThe, MonadExceptOf.throw]
    | some w => simp [pure, Except.pure]
  | false =>
    have hknown : knownAs joined = joined.withoutFragment := if_neg (Bool.eq_false_iff.mp hanchor)
    rw [hknown] at h ⊢
    obtain ⟨uri, huri, hplain, hwithout, hfragment⟩ : ∃ uri, resolveUri place reference = .ok uri ∧
        uri.isAnchored = false ∧ uri.withoutFragment = joined.withoutFragment ∧ uri.fragment.getD [] = [] := by
      rcases h with huri | ⟨-, huri⟩ <;> exact ⟨_, huri, rfl, withoutFragment_again joined, rfl⟩
    unfold resolve
    simp only [huri, bind, Except.bind, hplain, hwithout, hfragment]
    cases docs.get? joined.withoutFragment.text with
    | none => simp [throw, throwThe, MonadExceptOf.throw]
    | some w => simp [pure, Except.pure, Percent.decode?, Pointer.parse?, follow]

/-- There is a reference that stands for the URI. -/
theorem exists_standsFor (h : resolveUri place id = .ok joined) :
    ∃ place reference, StandsFor place reference (knownAs joined) := by
  cases hanchor : joined.isAnchored with
  | true =>
    have hknown : knownAs joined = joined := if_pos hanchor
    exact ⟨place, id, .inl (hknown.symm ▸ h)⟩
  | false =>
    have hknown : knownAs joined = joined.withoutFragment := if_neg (Bool.eq_false_iff.mp hanchor)
    exact ⟨knownAs joined, "#", .inr ⟨by rw [hknown]; rfl, rfl⟩⟩

end

section

variable {root : Json} {base : Uri} {cache : Table String Json} {docs : Documents}

/-- **Which schemas the index finds.**  Let a schema with an `$id` be reached in a visible document through
    places of schemas alone, and let nothing else claim its URI.  References that stand for this URI lead to
    the schema if and only if no map of schemas on the way lists it, or what it stands in, under the name of
    a keyword for data. -/
theorem indexed_iff (h : visibleFrom root base cache = .ok docs) {key id : String} {start place joined : Uri}
    {document s : Json} {names : List String} {path : List Nat}
    (hvisible : Visible root base cache key start document) (hs : SchemaAt s place names path start document)
    (hid : idOf? s = some id) (hjoined : resolveUri place id = .ok joined)
    (hunique : ∀ document' path' w, Claims root base cache (knownAs joined).text document' path' w →
      document' = document ∧ path' = path) :
    (∀ place reference, StandsFor place reference (knownAs joined) →
      ∃ target, docs.resolve place reference = .ok target ∧ target.schema = s) ↔
    ∀ name ∈ names, name ∉ dataKeywords := by
  have hplace : ∀ {document' path' w}, Claims root base cache (knownAs joined).text document' path' w →
      w = s ∧ ∀ name ∈ names, name ∉ dataKeywords := by
    intro document' path' w hclaims
    obtain ⟨rfl, rfl⟩ := hunique _ _ _ hclaims
    cases hclaims with
    | document =>
      cases hs
      exact ⟨rfl, fun _ h => absurd h List.not_mem_nil⟩
    | schema _ hfiles => exact hs.of_filesAt hfiles
  constructor
  · intro hresolves
    obtain ⟨place', reference, hstands⟩ := exists_standsFor hjoined
    obtain ⟨document', path', hclaims⟩ :=
      exists_claims h ((resolve_of_standsFor hstands).mp (hresolves place' reference hstands))
    exact (hplace hclaims).2
  · intro hnames place' reference hstands
    have hfiled : FiledUnder place s (knownAs joined).text :=
      ⟨id, joined, hid, hjoined, apply_ite Uri.text _ _ _⟩
    obtain ⟨w, hw⟩ := Option.isSome_iff_exists.mp
      ((Claims.schema hvisible (hs.filesAt hfiled hnames)).isSome h)
    obtain ⟨document', path', hclaims⟩ := exists_claims h hw
    rw [(hplace hclaims).1] at hw
    exact (resolve_of_standsFor hstands).mpr hw

end

/-- In an object of one member that has no `$id`, what is filed is in this member. -/
theorem FilesAt.of_singleton {key name : String} {v w : Json} {path : List Nat} {b : Uri}
    (h : FilesAt key w path b (.obj [(name, v)])) (hid : idOf? (.obj [(name, v)]) = none) :
    ∃ rest, path = 0 :: rest ∧ FilesAt key w rest b v := by
  cases h with
  | here hfiled =>
    obtain ⟨id, _, hsome, -⟩ := hfiled
    rw [hid] at hsome
    cases hsome
  | @inside rest _ _ _ _ i _ hinner hpart _ hfiles =>
    rw [innerBase, hid] at hinner
    obtain rfl := Except.ok.inj hinner
    cases i with
    | zero =>
      obtain ⟨-, rfl⟩ := Prod.mk.inj (Option.some.inj hpart)
      exact ⟨rest, rfl, hfiles⟩
    | succ i => cases hpart

/-- A schema with an `$id`. -/
def identifiedString : Json := .obj [("$id", "http://x/t"), ("type", "string")]

/-- A document that defines it under a name. -/
def definingAs (name : String) : Json := .obj [("definitions", .obj [(name, identifiedString)])]

theorem definitions_withoutId (name : String) : idOf? (.obj [(name, identifiedString)]) = none := by
  have hget : (Json.obj [(name, identifiedString)]).get? "$id" = List.lookup "$id" [(name, identifiedString)] := rfl
  rw [idOf?, hget, List.lookup_cons]
  cases "$id" == name <;> rfl

/-- Where the schema stands. -/
theorem definingAs_schemaAt (name : String) :
    SchemaAt identifiedString defaultBase [name] [0, 0] defaultBase (definingAs name) :=
  .named (by decide) rfl rfl (definitions_withoutId name) rfl .here

/-- The index can file nothing else in the document. -/
theorem path_of_filesAt_definingAs {name key : String} {w : Json} {path : List Nat} {b : Uri}
    (h : FilesAt key w path b (definingAs name)) : path = [0, 0] := by
  obtain ⟨_, rfl, hmap⟩ := h.of_singleton rfl
  obtain ⟨_, rfl, hschema⟩ := hmap.of_singleton (definitions_withoutId name)
  -- the members of the schema are texts
  cases hschema with
  | here => rfl
  | @inside _ _ _ _ _ i _ _ hpart _ h =>
    match i with
    | 0 | 1 =>
      obtain ⟨-, rfl⟩ := Prod.mk.inj (Option.some.inj hpart)
      cases h with
      | here hfiled =>
        obtain ⟨_, _, hid, -⟩ := hfiled
        cases hid
      | inside _ hpart => cases hpart
    | i + 2 => cases hpart

/-- The definition `t` is found. -/
theorem definition_found : ∃ docs joined,
    visibleFrom (definingAs "t") defaultBase .empty = .ok docs ∧
    resolveUri defaultBase "http://x/t" = .ok joined ∧
    (∀ document path w, Claims (definingAs "t") defaultBase .empty (knownAs joined).text document path w →
      document = definingAs "t" ∧ path = [0, 0]) ∧
    ∀ place reference, StandsFor place reference (knownAs joined) →
      ∃ target, docs.resolve place reference = .ok target ∧ target.schema = identifiedString := by
  have hvisible : (visibleFrom (definingAs "t") defaultBase .empty).toOption.any (fun _ => true) = true := by
    decide +kernel
  have hjoined : (resolveUri defaultBase "http://x/t").toOption.any
      (fun joined => (knownAs joined).text != defaultBase.text) = true := by decide +kernel
  obtain ⟨docs, hdocs, -⟩ := exists_ok_of_any hvisible
  obtain ⟨joined, hresolved, hother⟩ := exists_ok_of_any hjoined
  have hunique : ∀ document path w,
      Claims (definingAs "t") defaultBase .empty (knownAs joined).text document path w →
        document = definingAs "t" ∧ path = [0, 0] := by
    intro document path w hclaims
    cases hclaims with
    | document hvisible =>
      generalize hkey : (knownAs joined).text = key at hvisible
      cases hvisible with
      | root => simp [hkey] at hother
      | cached hentry => cases hentry
    | schema hvisible hfiles =>
      cases hvisible with
      | root => exact ⟨rfl, path_of_filesAt_definingAs hfiles⟩
      | cached hentry => cases hentry
  exact ⟨docs, joined, hdocs, hresolved, hunique,
    (indexed_iff hdocs .root (definingAs_schemaAt "t") rfl hresolved hunique).mpr (by decide)⟩

/-- **The definition `default` is not found**, though nothing else claims its URI. -/
theorem default_definition_lost : ∃ docs,
    visibleFrom (definingAs "default") defaultBase .empty = .ok docs ∧
    SchemaAt identifiedString defaultBase ["default"] [0, 0] defaultBase (definingAs "default") ∧
    idOf? identifiedString = some "http://x/t" ∧
    (∀ document path w, ¬ Claims (definingAs "default") defaultBase .empty "http://x/t" document path w) ∧
    ∀ target, docs.resolve defaultBase "http://x/t" ≠ .ok target := by
  have hlost : (visibleFrom (definingAs "default") defaultBase .empty).toOption.any (fun docs =>
      (docs.get? "http://x/t").isNone && (docs.resolve defaultBase "http://x/t").toOption.isNone) = true := by
    decide +kernel
  obtain ⟨docs, hdocs, hlost⟩ := exists_ok_of_any hlost
  obtain ⟨hfiled, hresolve⟩ := Bool.and_eq_true_iff.mp hlost
  refine ⟨docs, hdocs, definingAs_schemaAt "default", rfl, fun document path w hclaims => ?_, ?_⟩
  · rw [← Option.not_isSome, hclaims.isSome hdocs] at hfiled
    cases hfiled
  · intro target htarget
    rw [htarget] at hresolve
    cases hresolve

end Documents

end JsonSchema
