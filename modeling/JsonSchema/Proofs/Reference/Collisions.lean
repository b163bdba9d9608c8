import Mathlib.Data.List.Nodup
import Mathlib.Data.List.Perm.Basic
import JsonSchema.Proofs.Lowering.Visits
import JsonSchema.Proofs.Reference.Local

/-!
# Documents that file the same URI

The documents of a cache are filed one after the other, and what is filed later takes the place of what
was filed under the same URI before.  So the order of the cache matters where two of them file different
schemas under one URI, and nowhere else (`order_free_iff_unambiguous`).

Filing a document does the same whatever has been filed before (`Stacks`), so that each document can be
looked at by itself (`filed`), and an order of documents is a list of tables, of which the last with a
schema for a URI counts.
-/

set_option autoImplicit false

namespace JsonSchema

namespace Documents

/-! ## Filing on top of what is there -/

/-- The second result is the first, filed on top of a table. -/
def OnTop (docs : Documents) (own result : Except SchemaError Documents) : Prop :=
  match own with
  | .error e => result = .error e
  | .ok t => ∃ docs', result = .ok docs' ∧ ∀ uri, docs'.get? uri = (t.get? uri).or (docs.get? uri)

/-- What is filed, and whether filing fails, does not depend on what is there. -/
def Stacks (file : Documents → Except SchemaError Documents) : Prop :=
  ∀ docs, OnTop docs (file .empty) (file docs)

namespace Stacks

variable {f g : Documents → Except SchemaError Documents}

theorem nothing : Stacks .ok := fun docs => ⟨docs, rfl, fun _ => rfl⟩

theorem fails (e : SchemaError) : Stacks fun _ => .error e := fun _ => rfl

theorem set (uri : String) (schema : Json) : Stacks fun docs => .ok (docs.set uri schema) := by
  refine fun docs => ⟨_, rfl, fun other => ?_⟩
  rw [Table.get?_set, Table.get?_set]
  split <;> rfl

theorem bind (hf : Stacks f) (hg : Stacks g) : Stacks fun docs => f docs >>= g := by
  intro docs
  have hfirst := hf docs
  dsimp only
  cases hown : f .empty with
  | error e =>
    rw [hown] at hfirst
    rw [show f docs = .error e from hfirst]
    rfl
  | ok t =>
    rw [hown] at hfirst
    obtain ⟨docs', hdocs, hget⟩ := hfirst
    rw [hdocs]
    show OnTop docs (g t) (g docs')
    have hsecond := hg t
    have hsecond' := hg docs'
    cases hown' : g .empty with
    | error e =>
      rw [hown'] at hsecond hsecond'
      rw [show g t = .error e from hsecond, show g docs' = .error e from hsecond']
      rfl
    | ok u =>
      rw [hown'] at hsecond hsecond'
      obtain ⟨t', ht, hget₁⟩ := hsecond
      obtain ⟨docs'', hdocs', hget₂⟩ := hsecond'
      rw [ht, hdocs']
      refine ⟨docs'', rfl, fun uri => ?_⟩
      rw [hget₂, hget, hget₁, Option.or_assoc]

end Stacks

mutual

theorem index_stacks : ∀ (v : Json) (base : Uri), Stacks fun docs => docs.index base v
  | .obj members, base => by
    have hindex : (fun docs : Documents => docs.index base (.obj members)) = fun docs =>
        docs.identify base (.obj members) >>= fun r => r.1.indexMembers r.2 members := by
      funext docs
      rw [index]
    rw [hindex]
    cases hid : idOf? (.obj members) with
    | none =>
      simp only [identify, hid]
      exact indexMembers_stacks members base
    | some id =>
      cases huri : resolveUri base id with
      | error e =>
        simp only [identify, hid, huri]
        exact .fails e
      | ok uri =>
        cases hanchor : uri.isAnchored with
        | true =>
          simp only [identify, hid, huri, hanchor, bind, Except.bind, pure, Except.pure, if_true]
          exact (Stacks.set uri.text _).bind (indexMembers_stacks members base)
        | false =>
          simp only [identify, hid, huri, hanchor, bind, Except.bind, pure, Except.pure]
          exact (Stacks.set uri.withoutFragment.text _).bind (indexMembers_stacks members _)
  | .arr items, base => by
    have hindex : (fun docs : Documents => docs.index base (.arr items)) =
        fun docs => docs.indexItems base items := by
      funext docs
      rw [index]
    rw [hindex]
    exact indexItems_stacks items base
  | .null, _ | .bool _, _ | .num _, _ | .str _, _ => .nothing

theorem indexItems_stacks : ∀ (items : List Json) (base : Uri),
    Stacks fun docs => docs.indexItems base items
  | [], base => by
    have hindex : (fun docs : Documents => docs.indexItems base []) = .ok := by
      funext docs
      rw [indexItems]
    rw [hindex]
    exact .nothing
  | v :: rest, base => by
    have hindex : (fun docs : Documents => docs.indexItems base (v :: rest)) = fun docs =>
        docs.index base v >>= fun docs => docs.indexItems base rest := by
      funext docs
      rw [indexItems]
    rw [hindex]
    exact (index_stacks v base).bind (indexItems_stacks rest base)

theorem indexMembers_stacks : ∀ (members : List (String × Json)) (base : Uri),
    Stacks fun docs => docs.indexMembers base members
  | [], base => by
    have hindex : (fun docs : Documents => docs.indexMembers base []) = .ok := by
      funext docs
      rw [indexMembers]
    rw [hindex]
    exact .nothing
  | (name, v) :: rest, base => by
    have hindex : (fun docs : Documents => docs.indexMembers base ((name, v) :: rest)) = fun docs =>
        if dataKeywords.contains name then docs.indexMembers base rest
        else docs.index base v >>= fun docs => docs.indexMembers base rest := by
      funext docs
      rw [indexMembers]
    rw [hindex]
    split
    · exact indexMembers_stacks rest base
    · exact (index_stacks v base).bind (indexMembers_stacks rest base)

end

theorem add_stacks (uri : String) (base : Uri) (document : Json) :
    Stacks fun docs => docs.add uri base document :=
  (Stacks.set uri document).bind (index_stacks document base)

/-! ## The documents of a cache, one by one -/

/-- Files a document of a cache under its key. -/
def file (entry : String × Json) (docs : Documents) : Except SchemaError Documents := do
  docs.add entry.1 (← (Uri.parse entry.1).mapError (.invalidUri entry.1)) entry.2

/-- Why a document of a cache cannot be filed. -/
def failure? (entry : String × Json) : Option SchemaError :=
  match file entry .empty with
  | .error e => some e
  | .ok _ => none

/-- The schema that a document of a cache files under a URI. -/
def filedAs? (uri : String) (entry : String × Json) : Option Json :=
  match file entry .empty with
  | .error _ => none
  | .ok docs => docs.get? uri

/-- The last schema that is filed under a URI. -/
def latest? (uri : String) (entries : List (String × Json)) : Option Json :=
  entries.reverse.findSome? (filedAs? uri)

theorem file_stacks (entry : String × Json) : Stacks (file entry) := by
  unfold file
  cases (Uri.parse entry.1).mapError (SchemaError.invalidUri entry.1) with
  | error e => exact .fails e
  | ok base => exact add_stacks entry.1 base entry.2

/-- **The first failure counts, or else what was filed last.** -/
theorem fileEach (entries : List (String × Json)) : ∀ docs : Documents,
    match entries.findSome? failure? with
    | some e => entries.foldlM (fun docs entry => file entry docs) docs = .error e
    | none => ∃ docs', entries.foldlM (fun docs entry => file entry docs) docs = .ok docs' ∧
        ∀ uri, docs'.get? uri = (latest? uri entries).or (docs.get? uri) := by
  induction entries with
  | nil => exact fun docs => ⟨docs, rfl, fun _ => rfl⟩
  | cons entry rest ih =>
    intro docs
    have hentry := file_stacks entry docs
    rw [List.foldlM_cons, List.findSome?_cons]
    cases hfiled : file entry .empty with
    | error e =>
      rw [hfiled] at hentry
      have hfails : failure? entry = some e := by rw [failure?, hfiled]
      rw [hfails, show file entry docs = .error e from hentry]
      rfl
    | ok own =>
      rw [hfiled] at hentry
      obtain ⟨docs₁, hdocs₁, hget₁⟩ := hentry
      have hfiles : failure? entry = none := by rw [failure?, hfiled]
      have hrest := ih docs₁
      rw [hfiles, hdocs₁]
      dsimp only [bind, Except.bind]
      cases hfailure : rest.findSome? failure? with
      | some e =>
        rw [hfailure] at hrest
        exact hrest
      | none =>
        rw [hfailure] at hrest
        obtain ⟨docs', hdocs', hget⟩ := hrest
        refine ⟨docs', hdocs', fun uri => ?_⟩
        have hown : filedAs? uri entry = own.get? uri := by rw [filedAs?, hfiled]
        rw [hget, hget₁, ← Option.or_assoc, ← hown, latest?, latest?, List.reverse_cons,
          List.findSome?_append]
        simp

/-! ## What the order of a cache can change -/

/-- Two ways of filing come to the same: to the same failure or the same schemas under all URIs. -/
def FiledAlike : Except SchemaError Documents → Except SchemaError Documents → Prop
  | .ok docs, .ok docs' => ∀ uri, docs.get? uri = docs'.get? uri
  | .error e, .error e' => e = e'
  | _, _ => False

/-- No two documents of a cache contradict each other. -/
structure Unambiguous (root : Json) (base : Uri) (cache : Table String Json) : Prop where
  /-- Documents that cannot be filed all fail in the same way. -/
  failures : ∀ a ∈ cache.entries, ∀ b ∈ cache.entries, ∀ e e',
    failure? a = some e → failure? b = some e' → e = e'
  /-- If all can be filed, two documents file one schema under a URI, or the root files its own there. -/
  filings : (∀ a ∈ cache.entries, failure? a = none) →
    ∀ own uri, add .empty base.text base root = .ok own → own.get? uri = none →
    ∀ a ∈ cache.entries, ∀ b ∈ cache.entries, ∀ v v',
    filedAs? uri a = some v → filedAs? uri b = some v' → v = v'

section

variable {root : Json} {base : Uri} {cache cache' : Table String Json}

/-- What is visible from a root: the first failure of the cache, or that of the root, or else what the
    root files, and behind it what was filed last. -/
theorem visibleFrom_cases (root : Json) (base : Uri) (cache : Table String Json) :
    match cache.entries.findSome? failure? with
    | some e => visibleFrom root base cache = .error e
    | none =>
      match add .empty base.text base root with
      | .error e => visibleFrom root base cache = .error e
      | .ok own => ∃ docs, visibleFrom root base cache = .ok docs ∧
          ∀ uri, docs.get? uri = (own.get? uri).or (latest? uri cache.entries) := by
  have hcache := fileEach cache.entries .empty
  rw [show visibleFrom root base cache =
    cache.entries.foldlM (fun docs entry => file entry docs) .empty >>= fun docs =>
      docs.add base.text base root from rfl]
  cases hfailure : cache.entries.findSome? failure? with
  | some e =>
    rw [hfailure] at hcache
    rw [hcache]
    rfl
  | none =>
    rw [hfailure] at hcache
    obtain ⟨docs, hdocs, hget⟩ := hcache
    rw [hdocs]
    have hroot := add_stacks base.text base root docs
    dsimp only [bind, Except.bind] at hroot ⊢
    cases hown : add .empty base.text base root with
    | error e =>
      rw [hown] at hroot
      exact hroot
    | ok own =>
      rw [hown] at hroot
      obtain ⟨docs', hdocs', hget'⟩ := hroot
      refine ⟨docs', hdocs', fun uri => ?_⟩
      rw [hget', hget]
      simp

/-- In a list without contradictions it does not matter what is found first. -/
theorem findSome?_perm {α β : Type} {f : α → Option β} {l l' : List α} (hperm : l'.Perm l)
    (hsame : ∀ a ∈ l, ∀ b ∈ l, ∀ x y, f a = some x → f b = some y → x = y) :
    l'.findSome? f = l.findSome? f := by
  cases hl : l.findSome? f with
  | none =>
    rw [List.findSome?_eq_none_iff] at hl ⊢
    exact fun a ha => hl a (hperm.mem_iff.mp ha)
  | some x =>
    obtain ⟨a, ha, hx⟩ := List.exists_of_findSome?_eq_some hl
    cases hl' : l'.findSome? f with
    | none =>
      rw [List.findSome?_eq_none_iff.mp hl' a (hperm.mem_iff.mpr ha)] at hx
      exact nomatch hx
    | some y =>
      obtain ⟨b, hb, hy⟩ := List.exists_of_findSome?_eq_some hl'
      rw [hsame a ha b (hperm.mem_iff.mp hb) x y hx hy]

/-- Without contradictions the order of the cache does not matter to what is filed. -/
theorem Unambiguous.filedAlike (h : Unambiguous root base cache)
    (hperm : cache'.entries.Perm cache.entries) :
    FiledAlike (visibleFrom root base cache') (visibleFrom root base cache) := by
  have hcases := visibleFrom_cases root base cache
  have hcases' := visibleFrom_cases root base cache'
  rw [findSome?_perm hperm h.failures] at hcases'
  cases hfailure : cache.entries.findSome? failure? with
  | some e =>
    rw [hfailure] at hcases hcases'
    rw [hcases, hcases']
    rfl
  | none =>
    rw [hfailure] at hcases hcases'
    dsimp only at hcases hcases'
    cases hown : add .empty base.text base root with
    | error e =>
      rw [hown] at hcases hcases'
      rw [hcases, hcases']
      rfl
    | ok own =>
      rw [hown] at hcases hcases'
      obtain ⟨docs, hdocs, hget⟩ := hcases
      obtain ⟨docs', hdocs', hget'⟩ := hcases'
      rw [hdocs, hdocs']
      intro uri
      rw [hget, hget']
      cases huri : own.get? uri with
      | some v => rfl
      | none =>
        have hfine := List.findSome?_eq_none_iff.mp hfailure
        have hperm' : cache'.entries.reverse.Perm cache.entries.reverse :=
          (List.reverse_perm _).trans (hperm.trans (List.reverse_perm _).symm)
        refine findSome?_perm hperm' fun a ha b hb => ?_
        exact h.filings hfine own uri hown huri a (List.mem_reverse.mp ha) b (List.mem_reverse.mp hb)

/-! ## Orders that show a contradiction -/

/-- A cache with one of its documents in front of the others, and one with it behind them. -/
theorem exists_reordered {a : String × Json} (ha : a ∈ cache.entries) :
    ∃ first last : Table String Json, first.entries.Perm cache.entries ∧
      last.entries.Perm cache.entries ∧ first.entries.head? = some a ∧ last.entries.getLast? = some a := by
  obtain ⟨before, after, hentries⟩ := List.append_of_mem ha
  have hfirst : (a :: (before ++ after)).Perm cache.entries := hentries ▸ List.perm_middle.symm
  have hlast : (before ++ after ++ [a]).Perm cache.entries :=
    (List.perm_append_singleton a _).trans hfirst
  refine ⟨⟨_, (hfirst.map Prod.fst).nodup_iff.mpr cache.nodup⟩,
    ⟨_, (hlast.map Prod.fst).nodup_iff.mpr cache.nodup⟩, hfirst, hlast, rfl, ?_⟩
  exact List.getLast?_concat

/-- A document in front fails first. -/
theorem visibleFrom_of_head {a : String × Json} {e : SchemaError} (ha : cache.entries.head? = some a)
    (he : failure? a = some e) : visibleFrom root base cache = .error e := by
  have hcases := visibleFrom_cases root base cache
  obtain ⟨rest, hentries⟩ := List.head?_eq_some_iff.mp ha
  rw [hentries, List.findSome?_cons, he] at hcases
  exact hcases

/-- A document at the end counts. -/
theorem visibleFrom_of_last {a : String × Json} {own : Documents} {uri : String} {v : Json}
    (ha : cache.entries.getLast? = some a) (hfine : ∀ b ∈ cache.entries, failure? b = none)
    (hown : add .empty base.text base root = .ok own) (huri : own.get? uri = none)
    (hv : filedAs? uri a = some v) :
    ∃ docs, visibleFrom root base cache = .ok docs ∧ docs.get? uri = some v := by
  have hcases := visibleFrom_cases root base cache
  rw [List.findSome?_eq_none_iff.mpr hfine, hown] at hcases
  obtain ⟨docs, hdocs, hget⟩ := hcases
  obtain ⟨rest, hentries⟩ := List.getLast?_eq_some_iff.mp ha
  refine ⟨docs, hdocs, ?_⟩
  rw [hget, huri, latest?, hentries, List.reverse_append]
  simp [hv]

/-- If every order files the same, no two documents contradict each other. -/
theorem unambiguous_of_filedAlike (h : ∀ cache' : Table String Json, cache'.entries.Perm cache.entries →
    FiledAlike (visibleFrom root base cache') (visibleFrom root base cache)) :
    Unambiguous root base cache where
  failures := by
    -- the failure of a document is what the order with the document in front comes to
    have hfirst : ∀ a ∈ cache.entries, ∀ e, failure? a = some e →
        visibleFrom root base cache = .error e := by
      intro a ha e he
      obtain ⟨first, -, hperm, -, hhead, -⟩ := exists_reordered ha
      have halike := h first hperm
      rw [visibleFrom_of_head hhead he] at halike
      cases hcache : visibleFrom root base cache with
      | error e' =>
        rw [hcache] at halike
        rw [show e = e' from halike]
      | ok docs =>
        rw [hcache] at halike
        exact halike.elim
    intro a ha b hb e e' he he'
    have hsame := (hfirst a ha e he).symm.trans (hfirst b hb e' he')
    exact Except.error.inj hsame
  filings := by
    intro hfine own uri hown huri
    have hlast : ∀ a ∈ cache.entries, ∀ v, filedAs? uri a = some v →
        ∃ docs, visibleFrom root base cache = .ok docs ∧ docs.get? uri = some v := by
      intro a ha v hv
      obtain ⟨-, last, -, hperm, -, hend⟩ := exists_reordered ha
      have halike := h last hperm
      have hfine' : ∀ b ∈ last.entries, failure? b = none := fun b hb => hfine b (hperm.mem_iff.mp hb)
      obtain ⟨docs', hdocs', hget⟩ := visibleFrom_of_last hend hfine' hown huri hv
      rw [hdocs'] at halike
      cases hcache : visibleFrom root base cache with
      | error e =>
        rw [hcache] at halike
        exact halike.elim
      | ok docs =>
        rw [hcache] at halike
        exact ⟨docs, rfl, (halike uri).symm.trans hget⟩
    intro a ha b hb v v' hv hv'
    obtain ⟨docs, hdocs, hget⟩ := hlast a ha v hv
    obtain ⟨docs', hdocs', hget'⟩ := hlast b hb v' hv'
    rw [hdocs] at hdocs'
    cases hdocs'
    rw [hget] at hget'
    exact Option.some.inj hget'

/-- The URIs under which a document of a cache files schemas. -/
def filedUris (entry : String × Json) : List String :=
  match file entry .empty with
  | .error _ => []
  | .ok docs => docs.keys

theorem mem_filedUris {entry : String × Json} {uri : String} {v : Json}
    (h : filedAs? uri entry = some v) : uri ∈ filedUris entry := by
  unfold filedAs? at h
  unfold filedUris
  split at h
  · cases h
  · next docs hfile =>
    exact List.mem_map_of_mem (mem_of_lookup (show docs.entries.lookup uri = some v from h))

/-- Documents that have no URI in common do not contradict each other. -/
theorem Unambiguous.of_apart (hfine : ∀ a ∈ cache.entries, failure? a = none)
    (hapart : ∀ a ∈ cache.entries, ∀ b ∈ cache.entries, ∀ uri ∈ filedUris a,
      uri ∈ filedUris b → a.1 = b.1) :
    Unambiguous root base cache where
  failures := by
    intro a ha b hb e e' he
    rw [hfine a ha] at he
    cases he
  filings := by
    intro _ own uri _ _ a ha b hb v v' hv hv'
    have hkey := hapart a ha b hb uri (mem_filedUris hv) (mem_filedUris hv')
    rw [List.inj_on_of_nodup_map cache.nodup ha hb hkey, hv'] at hv
    exact (Option.some.inj hv).symm

/-! ## Documents that are filed alike -/

/-- Resolving a reference looks URIs up and does nothing else with the documents. -/
theorem resolve_congr {docs docs' : Documents} (h : ∀ uri, docs.get? uri = docs'.get? uri) (place : Uri)
    (reference : String) : docs.resolve place reference = docs'.resolve place reference := by
  unfold resolve
  simp only [h]

theorem FiledAlike.resolve {filed filed' : Except SchemaError Documents} (h : FiledAlike filed filed')
    (place : Uri) (reference : String) :
    (filed >>= fun docs => docs.resolve place reference) =
      filed' >>= fun docs => docs.resolve place reference := by
  cases filed with
  | error e =>
    cases filed' with
    | error e' => rw [show e = e' from h]
    | ok docs' => exact h.elim
  | ok docs =>
    cases filed' with
    | error e' => exact h.elim
    | ok docs' => exact resolve_congr h place reference

end
end Documents

/-! ## Lowering among documents in another order -/

/-- The budget counts the documents and their sizes. -/
theorem loweringBudget_congr {docs docs' : Documents} {schema schema' : Json}
    (hsize : schema.size = schema'.size)
    (h : ∀ uri, (docs.get? uri).map Json.size = (docs'.get? uri).map Json.size) :
    loweringBudget schema docs = loweringBudget schema' docs' := by
  have hnodup : ∀ t : Documents, (t.entries.map fun e => (e.1, e.2.size)).Nodup := by
    intro t
    refine List.Nodup.of_map Prod.fst ?_
    rw [List.map_map]
    exact t.nodup
  have hperm : (docs.entries.map fun e => (e.1, e.2.size)).Perm
      (docs'.entries.map fun e => (e.1, e.2.size)) := by
    have hmem : ∀ (t : Documents) (key : String) (n : Nat),
        (key, n) ∈ t.entries.map (fun e => (e.1, e.2.size)) ↔ (t.get? key).map Json.size = some n := by
      intro t key n
      rw [List.mem_map, Option.map_eq_some_iff]
      constructor
      · rintro ⟨⟨uri, v⟩, hv, heq⟩
        obtain ⟨rfl, rfl⟩ := Prod.mk.inj heq
        exact ⟨v, (t.mem_entries_iff uri v).mp hv, rfl⟩
      · rintro ⟨v, hv, rfl⟩
        exact ⟨(key, v), (t.mem_entries_iff key v).mpr hv, rfl⟩
    refine (List.perm_ext_iff_of_nodup (hnodup docs) (hnodup docs')).mpr ?_
    rintro ⟨key, n⟩
    rw [hmem, hmem, h]
  have hcomm : RightCommutative fun (n : Nat) (e : String × Nat) => n + e.2 :=
    ⟨fun _ _ _ => Nat.add_right_comm _ _ _⟩
  have hvalues : ∀ t : Documents, t.entries.foldl (fun n e => n + e.2.size) schema'.size =
      (t.entries.map fun e => (e.1, e.2.size)).foldl (fun n e => n + e.2) schema'.size := by
    intro t
    rw [List.foldl_map]
  have hlength := hperm.length_eq
  rw [List.length_map, List.length_map] at hlength
  unfold loweringBudget
  rw [hsize, hvalues, hvalues, List.Perm.foldl_eq hperm schema'.size, hlength]

/-- What a schema compiles to depends on what is filed under each URI. -/
theorem compileSchema_congr {s : Surroundings} {cache : Table String Json} {schema : Json} {base : Uri}
    (hbase : schemaBase schema defaultBase = .ok base)
    (h : Documents.FiledAlike (Documents.visibleFrom schema base cache)
      (Documents.visibleFrom schema base s.cache)) :
    compileSchema { s with cache } schema = compileSchema s schema := by
  unfold compileSchema
  rw [compileProgram_eq, compileProgram_eq]
  unfold lowerProgram
  rw [hbase]
  dsimp only [bind, Except.bind]
  cases hdocs : Documents.visibleFrom schema base s.cache with
  | error e =>
    cases hdocs' : Documents.visibleFrom schema base cache with
    | error e' =>
      rw [hdocs, hdocs'] at h
      rw [show e' = e from h]
    | ok docs' =>
      rw [hdocs, hdocs'] at h
      exact h.elim
  | ok docs =>
    cases hdocs' : Documents.visibleFrom schema base cache with
    | error e' =>
      rw [hdocs, hdocs'] at h
      exact h.elim
    | ok docs' =>
      rw [hdocs, hdocs'] at h
      let env : Environment := ⟨s.registry, s.options, s.formats, docs⟩
      have hresolve : ∀ place reference, docs'.resolve place reference = docs.resolve place reference :=
        Documents.resolve_congr h
      have hlower : lowerSchema (env.among docs') (loweringBudget schema docs) schema ⟨"#", "", 0, base, 0⟩ =
          lowerSchema env (loweringBudget schema docs) schema ⟨"#", "", 0, base, 0⟩ :=
        @lowerSchema_among env (fun _ _ => True) docs' (fun _ _ _ _ _ => trivial)
          (fun _ _ _ _ => hresolve _ _) _ _ _ trivial
      dsimp only [Environment.among, env] at hlower ⊢
      rw [loweringBudget_congr rfl fun uri => congrArg (Option.map Json.size) (h uri), hlower]

/-! ## When the order of a cache matters -/

/-- **The order of a cache does not matter exactly if its documents do not contradict each other**: then
    every reference leads to the same target or fails alike, and every schema compiles to the same. -/
theorem order_free_iff_unambiguous (s : Surroundings) (schema : Json) {base : Uri}
    (hbase : schemaBase schema defaultBase = .ok base) :
    Documents.Unambiguous schema base s.cache ↔
      ∀ cache' : Table String Json, cache'.entries.Perm s.cache.entries →
        Documents.FiledAlike (Documents.visibleFrom schema base cache')
          (Documents.visibleFrom schema base s.cache) ∧
        (∀ place reference,
          (Documents.visibleFrom schema base cache' >>= fun docs => docs.resolve place reference) =
            Documents.visibleFrom schema base s.cache >>= fun docs => docs.resolve place reference) ∧
        compileSchema { s with cache := cache' } schema = compileSchema s schema := by
  constructor
  · intro h cache' hperm
    have halike := h.filedAlike hperm
    exact ⟨halike, halike.resolve, compileSchema_congr hbase halike⟩
  · intro h
    exact Documents.unambiguous_of_filedAlike fun cache' hperm => (h cache' hperm).1

/-- A document with one schema inside that has an `$id` and asks for a type. -/
def defining (id type : String) : Json :=
  .obj [("definitions", .obj [("t", .obj [("$id", id), ("type", type)])])]

/-- Two documents under keys of their own. -/
def twoDocuments (a b : Json) : Table String Json :=
  ⟨[("json-schema:///a", a), ("json-schema:///b", b)], by simp⟩

/-- The same documents in the other order. -/
def twoDocumentsSwapped (a b : Json) : Table String Json :=
  ⟨[("json-schema:///b", b), ("json-schema:///a", a)], by simp⟩

/-- Two documents without a URI in common can come in either order. -/
theorem apart_order_free :
    compileSchema { Surroundings.plain with
        cache := twoDocumentsSwapped (defining "http://x/s" "integer") (defining "http://x/t" "string") }
      (.obj [("$ref", "http://x/t")]) =
    compileSchema { Surroundings.plain with
        cache := twoDocuments (defining "http://x/s" "integer") (defining "http://x/t" "string") }
      (.obj [("$ref", "http://x/t")]) := by
  have hunambiguous : Documents.Unambiguous (.obj [("$ref", "http://x/t")]) defaultBase
      (twoDocuments (defining "http://x/s" "integer") (defining "http://x/t" "string")) := by
    refine .of_apart ?_ ?_ <;> decide +kernel
  exact ((order_free_iff_unambiguous { Surroundings.plain with
    cache := twoDocuments (defining "http://x/s" "integer") (defining "http://x/t" "string") }
    (.obj [("$ref", "http://x/t")]) rfl).mp hunambiguous _ (.swap _ _ _)).2.2

/-- **Two documents that file different schemas under one URI**: which of them a reference means, and
    so what the root accepts, depends on their order. -/
theorem collision_order_counts :
    (compileSchema { Surroundings.plain with
        cache := twoDocuments (defining "http://x/t" "integer") (defining "http://x/t" "string") }
      (.obj [("$ref", "http://x/t")])).toOption.map (·.isValid (1 : Nat)) = some false ∧
    (compileSchema { Surroundings.plain with
        cache := twoDocumentsSwapped (defining "http://x/t" "integer") (defining "http://x/t" "string") }
      (.obj [("$ref", "http://x/t")])).toOption.map (·.isValid (1 : Nat)) = some true := by
  decide +kernel

end JsonSchema
