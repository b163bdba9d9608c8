import JsonSchema.Store.Basic
import Mathlib.Data.List.Forall2
import Mathlib.Data.List.Nodup

/-!
# Installing a store

Installing adds the documents of a store to a compiler one after the other and takes back what it added
when one is refused.  **It adds all of them or none** (`install_all_or_nothing`).

Taking back goes by normalized keys, and removing normalizes the key that it is given once more.  That a
key which has been normalized stays as it is is all that is asked of normalization.  Nothing that was
cached before can be lost: a key is only added where there is no document, so what is removed is what was
added, and an entry that is added stands behind all others.
-/

set_option autoImplicit false

namespace JsonSchema

/-! ## Single documents -/

namespace Compiler

variable {c c' : Compiler} {schema : Json} {key normalized : String}

/-- Adding a document under a key succeeds if the key can be normalized and is free. -/
theorem addSchema_under_eq_ok : c.addSchema schema (some key) = .ok (c', normalized) ↔
    normalizeId key = .ok normalized ∧ normalized ∉ c.documents.keys ∧
      c' = { c with documents := c.documents.set normalized schema, compiled := .empty } := by
  unfold addSchema
  rw [show (some key <|> idOf? schema) = some key from rfl]
  dsimp only
  cases normalizeId key with
  | error e => simp [bind, Except.bind]
  | ok n =>
    show (if c.documents.contains n then (Except.error (.duplicateSchema n) : Except SchemaError _)
      else .ok ({ c with documents := c.documents.set n schema, compiled := .empty }, n)) = _ ↔ _
    by_cases hmem : n ∈ c.documents.keys
    · rw [if_pos ((c.documents.contains_iff n).mpr hmem)]
      refine ⟨fun h => (nomatch h), ?_⟩
      rintro ⟨heq, hnew, -⟩
      cases heq
      exact absurd hmem hnew
    · rw [if_neg fun h => hmem ((c.documents.contains_iff n).mp h)]
      constructor
      · intro h
        cases h
        exact ⟨rfl, hmem, rfl⟩
      · rintro ⟨heq, -, rfl⟩
        cases heq
        rfl

/-- Removing the document of a normalized key, whether or not there is one. -/
theorem removeSchema_documents (c : Compiler) (h : normalizeId key = .ok key) :
    (c.removeSchema key).1.documents = c.documents.erase key := by
  unfold removeSchema
  rw [h]
  dsimp only
  cases hget : c.documents.get? key with
  | none => exact (Table.erase_eq_self ((c.documents.get?_eq_none_iff key).mp hget)).symm
  | some schema => rfl

/-- Removing the documents of normalized keys leaves the others. -/
theorem removeSchemas_documents {keys : List String} (h : ∀ key ∈ keys, normalizeId key = .ok key) :
    ∀ c : Compiler, (keys.foldl (fun c key => (c.removeSchema key).1) c).documents.entries =
      c.documents.entries.filter (·.1 ∉ keys) := by
  induction keys with
  | nil => simp
  | cons key rest ih =>
    intro c
    obtain ⟨hkey, hrest⟩ := List.forall_mem_cons.mp h
    rw [List.foldl_cons, ih hrest, c.removeSchema_documents hkey]
    show (c.documents.entries.filter (·.1 ≠ key)).filter (·.1 ∉ rest) = _
    rw [List.filter_filter]
    refine List.filter_congr fun e _ => ?_
    simp [Bool.and_comm]

end Compiler

/-! ## All documents -/

namespace SchemaStore

/-- What the keys of the documents are normalized to. -/
def Normalized (documents : List (String × Json)) (keys : List String) : Prop :=
  List.Forall₂ (fun e key => normalizeId e.1 = .ok key) documents keys

/-- **Adding the rest of the documents, where some were added before.**  If all are added, their entries
    stand behind those that there were; if one is refused, those that were added before are gone as well. -/
theorem installEntries_outcome {documents : List (String × Json)}
    (hnormal : ∀ e ∈ documents, ∀ key, normalizeId e.1 = .ok key → normalizeId key = .ok key) :
    ∀ (c : Compiler) (installed : List String), (∀ key ∈ installed, normalizeId key = .ok key) →
      match installEntries c installed documents with
      | (c', .ok keys) => ∃ new, keys = installed ++ new ∧ Normalized documents new ∧
          c'.documents.entries = c.documents.entries ++ new.zip (documents.map Prod.snd)
      | (c', .error _) => c'.documents.entries = c.documents.entries.filter (·.1 ∉ installed) := by
  induction documents with
  | nil => exact fun c installed _ => ⟨[], by simp, .nil, by simp⟩
  | cons e rest ih =>
    obtain ⟨key, schema⟩ := e
    intro c installed hinstalled
    obtain ⟨hkey, hrest⟩ := List.forall_mem_cons.mp hnormal
    rw [installEntries]
    cases hadd : c.addSchema schema (some key) with
    | error e => exact Compiler.removeSchemas_documents hinstalled c
    | ok added =>
      obtain ⟨c₁, normalized⟩ := added
      obtain ⟨hnormalized, hnew, rfl⟩ := Compiler.addSchema_under_eq_ok.mp hadd
      have hentries : (c.documents.set normalized schema).entries =
          c.documents.entries ++ [(normalized, schema)] := Table.entries_set_of_notMem hnew schema
      have hmore := ih hrest { c with documents := c.documents.set normalized schema, compiled := .empty }
        (installed ++ [normalized])
        (List.forall_mem_append.mpr ⟨hinstalled, List.forall_mem_singleton.mpr (hkey _ hnormalized)⟩)
      dsimp only at hmore ⊢
      revert hmore
      generalize installEntries _ _ rest = result
      obtain ⟨c', e | keys⟩ := result
      · intro herror
        dsimp only at herror ⊢
        -- the entry that was added last is among those taken back, and the others were there
        rw [herror, hentries, List.filter_append]
        have hlast : [(normalized, schema)].filter (·.1 ∉ installed ++ [normalized]) = [] := by simp
        rw [hlast, List.append_nil]
        refine List.filter_congr fun e he => ?_
        have hne : e.1 ≠ normalized := fun heq => hnew (heq ▸ List.mem_map_of_mem he)
        simp [hne]
      · rintro ⟨new, rfl, hnew', hadded⟩
        refine ⟨normalized :: new, by simp, .cons hnormalized hnew', ?_⟩
        rw [hadded, hentries]
        simp

/-- Documents are added if their keys can be normalized, differ from each other and are free. -/
theorem installEntries_ok {documents : List (String × Json)} {new : List String}
    (hnew : Normalized documents new) : ∀ (c : Compiler) (installed : List String),
      (c.documents.keys ++ new).Nodup → (installEntries c installed documents).2 = .ok (installed ++ new) := by
  induction hnew with
  | nil => exact fun c installed _ => by simp [installEntries]
  | @cons e normalized rest new hnormalized _ ih =>
    intro c installed hnodup
    have hfree : normalized ∉ c.documents.keys := by
      rw [List.nodup_append] at hnodup
      exact fun hmem => hnodup.2.2 _ hmem _ List.mem_cons_self rfl
    have hadd : c.addSchema e.2 (some e.1) = .ok (_, normalized) :=
      Compiler.addSchema_under_eq_ok.mpr ⟨hnormalized, hfree, rfl⟩
    have hkeys : (c.documents.set normalized e.2).keys = c.documents.keys ++ [normalized] := by
      unfold Table.keys
      rw [Table.entries_set_of_notMem hfree, List.map_append, List.map_singleton]
    obtain ⟨key, schema⟩ := e
    rw [installEntries, hadd]
    dsimp only
    rw [ih _ (installed ++ [normalized]) (by rw [hkeys]; simpa using hnodup)]
    simp

/-- The documents are installed in the order of their keys, each once. -/
theorem entries_perm (s : SchemaStore) : s.entries.Perm s.documents.entries := List.mergeSort_perm _ _

end SchemaStore

open SchemaStore

/-- **Installing a store is all or nothing**, for any store and any compiler, as long as a key of the store
    that has been normalized stays as it is.  It succeeds exactly if the keys of the store can be
    normalized to keys that differ from each other and are free.  Then the answer has one key for each
    document, and the cache is the old one with every document under its key behind it; otherwise the
    cache is the old one. -/
theorem install_all_or_nothing (s : SchemaStore) (c : Compiler)
    (hnormal : ∀ key ∈ s.keys, ∀ normalized, normalizeId key = .ok normalized →
      normalizeId normalized = .ok normalized) :
    ((s.install c).2.isOk = true ↔ ∃ keys, Normalized s.entries keys ∧ (c.documents.keys ++ keys).Nodup) ∧
      match s.install c with
      | (c', .ok keys) => Normalized s.entries keys ∧
          c'.documents.entries = c.documents.entries ++ keys.zip (s.entries.map Prod.snd)
      | (c', .error _) => c'.documents = c.documents := by
  have houtcome := @installEntries_outcome s.entries
    (fun e he => hnormal e.1 (List.mem_map_of_mem he)) c [] (by simp)
  change match s.install c with
    | (c', .ok keys) => ∃ new, keys = [] ++ new ∧ Normalized s.entries new ∧
        c'.documents.entries = c.documents.entries ++ new.zip (s.entries.map Prod.snd)
    | (c', .error _) => c'.documents.entries = c.documents.entries.filter (·.1 ∉ []) at houtcome
  refine ⟨⟨?_, ?_⟩, ?_⟩
  · intro hok
    cases hresult : s.install c with
    | mk c' answer =>
      rw [hresult] at houtcome hok
      cases answer with
      | error e => cases hok
      | ok keys =>
        obtain ⟨new, -, hnew, hentries⟩ := houtcome
        refine ⟨new, hnew, ?_⟩
        -- the keys of the new cache, which differ as those of every table do
        have hnodup := c'.documents.nodup
        have hlength : new.length ≤ (s.entries.map Prod.snd).length := by
          simp [hnew.length_eq]
        rw [hentries, List.map_append, List.map_fst_zip hlength] at hnodup
        exact hnodup
  · rintro ⟨keys, hkeys, hnodup⟩
    rw [show (s.install c).2 = _ from installEntries_ok hkeys c [] hnodup]
    rfl
  · revert houtcome
    generalize s.install c = result
    obtain ⟨c', e | keys⟩ := result
    · intro herror
      exact Table.eq_of_entries (herror.trans (by simp))
    · rintro ⟨new, rfl, hnew, hentries⟩
      exact ⟨hnew, hentries⟩

/-- Three documents, the keys of the last two of which are normalized to the same key. -/
def threeDocuments : SchemaStore where
  documents := .ofList [("a", true), ("b", .obj []), ("json-schema:///b", false)]
  config := {}

/-- A compiler with one document. -/
def oneCached : Compiler :=
  { Compiler.new {} with documents := .ofList [("json-schema:///old", true)] }

/-- The third document is refused, and then the first two are gone and the one that there was is not. -/
theorem threeDocuments_refused :
    (∀ key ∈ threeDocuments.keys, ∀ normalized, normalizeId key = .ok normalized →
      normalizeId normalized = .ok normalized) ∧
    (threeDocuments.install oneCached).2.isOk = false ∧
    (threeDocuments.install oneCached).1.documents = oneCached.documents := by
  have hentries : threeDocuments.entries =
      [("a", .bool true), ("b", .obj []), ("json-schema:///b", .bool false)] := by
    refine List.mergeSort_of_pairwise (l := threeDocuments.documents.entries) ?_
    decide +kernel
  have hchecked : threeDocuments.keys.all (fun key =>
      match normalizeId key with
      | .ok normalized => (normalizeId normalized).toOption == some normalized
      | .error _ => true) = true := by
    unfold keys
    rw [hentries]
    decide +kernel
  have hnormal : ∀ key ∈ threeDocuments.keys, ∀ normalized, normalizeId key = .ok normalized →
      normalizeId normalized = .ok normalized := by
    intro key hkey normalized hnormalized
    have hagain := List.all_eq_true.mp hchecked key hkey
    rw [hnormalized] at hagain
    cases hn : normalizeId normalized with
    | error e => simp [hn, Except.toOption] at hagain
    | ok again =>
      have heq : again = normalized := by simpa [hn, Except.toOption] using hagain
      rw [heq]
  have hrefused : (threeDocuments.install oneCached).2.isOk = false := by
    unfold install
    rw [hentries]
    decide +kernel
  refine ⟨hnormal, hrefused, ?_⟩
  have hnothing := (install_all_or_nothing threeDocuments oneCached hnormal).2
  revert hrefused hnothing
  generalize threeDocuments.install oneCached = result
  obtain ⟨c', e | keys⟩ := result
  · exact fun _ hnothing => hnothing
  · exact fun hok => nomatch hok

end JsonSchema
