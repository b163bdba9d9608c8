import JsonSchema.Proofs.Strict.Polarity
import JsonSchema.Store.Directory
import Mathlib.Data.List.Induction
import Mathlib.Data.List.Nodup
import Mathlib.Data.String.Basic

/-!
# Stores of directories

A directory is loaded in one loop over its entries, which are sorted by name: links are refused, files
counted, measured, read and stored.  `SchemaStore.Loadable` says of the entries in any order what the
loop asks of all of them together, and `SchemaStore.fault?` what is wrong with one entry after the ones
before it.  **A directory is loaded exactly if it is loadable, and then the store holds one document for
each schema file; otherwise the error is that of the first entry at fault** (`loading_a_directory`).
-/

set_option autoImplicit false

namespace JsonSchema

/-- A document as a store keeps it. -/
def StoreConfig.stored (config : StoreConfig) (schema : Json) : Json :=
  if config.strictMode then schema.closed else schema

namespace SchemaStore

/-! ## What a directory holds -/

/-- Whether an entry is a regular file that a document is expected in. -/
def isSchemaFile (entry : DirectoryEntry) : Bool := (stem? entry.name).isSome && entry.kind = .file

def schemaFiles (entries : List DirectoryEntry) : List DirectoryEntry := entries.filter isSchemaFile

/-- The document in a file, with its key: its `$id`, or else the stem of the file's name. -/
def document? (content : String → ByteArray) (entry : DirectoryEntry) : Option (String × Json) := do
  let stem ← stem? entry.name
  let text ← String.fromUTF8? (content entry.name)
  let schema ← Json.parse? text
  return ((idOf? schema).getD stem, schema)

/-- The documents in the schema files among the entries. -/
def documentsIn (content : String → ByteArray) (entries : List DirectoryEntry) : List (String × Json) :=
  (schemaFiles entries).filterMap (document? content)

/-- The directory has these entries, and all its files can be read. -/
structure Holds (files : FileAccess Id) (path : String) (entries : List DirectoryEntry)
    (content : String → ByteArray) : Prop where
  listed : Id.run (files.list path) = .ok entries
  distinct : (entries.map (·.name)).Nodup
  contents : ∀ entry ∈ entries, entry.kind = .file →
    Id.run (files.read (joinPath path entry.name)) = .ok (content entry.name)

/-- What a store asks of the entries of a directory. -/
structure Loadable (config : StoreConfig) (content : String → ByteArray) (entries : List DirectoryEntry) :
    Prop where
  noLinks : ∀ entry ∈ entries, (stem? entry.name).isSome → entry.kind ≠ .symlink
  count : (schemaFiles entries).length ≤ config.maxSchemas
  size : ∀ entry ∈ schemaFiles entries, (content entry.name).size ≤ config.maxFileSize
  text : ∀ entry ∈ schemaFiles entries, ∃ text schema,
    String.fromUTF8? (content entry.name) = some text ∧ Json.parse? text = some schema
  keys : ((documentsIn content entries).map Prod.fst).Nodup

/-- What is wrong with an entry that comes after others. -/
def fault? (path : String) (config : StoreConfig) (content : String → ByteArray)
    (before : List DirectoryEntry) (entry : DirectoryEntry) : Option StoreError :=
  match stem? entry.name, entry.kind with
  | some _, .symlink => some (.loadFailed (.symlink entry.name))
  | some stem, .file =>
    let count := (schemaFiles before).length + 1
    let size := (content entry.name).size
    if config.maxSchemas < count then some (.loadFailed (.tooMany config.maxSchemas count))
    else if config.maxFileSize < size then
      some (.loadFailed (.tooLarge (joinPath path entry.name) size))
    else
      match String.fromUTF8? (content entry.name) with
      | none => some (.loadFailed (.unreadable (joinPath path entry.name) .notUtf8))
      | some text =>
        match Json.parse? text with
        | none => some (.invalidJson stem)
        | some schema =>
          let key := (idOf? schema).getD stem
          if key ∈ (documentsIn content before).map Prod.fst then some (.duplicateKey key) else none
  | _, _ => none

/-- No entry is at fault after the ones before it. -/
def Faultless (path : String) (config : StoreConfig) (content : String → ByteArray)
    (entries : List DirectoryEntry) : Prop :=
  ∀ before entry after, entries = before ++ entry :: after → fault? path config content before entry = none

variable {path : String} {config : StoreConfig} {content : String → ByteArray} {entry : DirectoryEntry}
  {before entries entries' : List DirectoryEntry}

/-! ## One more entry -/

theorem schemaFiles_concat : schemaFiles (before ++ [entry]) =
    schemaFiles before ++ if isSchemaFile entry then [entry] else [] := by
  rw [schemaFiles, List.filter_append, List.filter_singleton, schemaFiles]
  cases isSchemaFile entry <;> rfl

theorem documentsIn_concat : documentsIn content (before ++ [entry]) =
    documentsIn content before ++ if isSchemaFile entry then (document? content entry).toList else [] := by
  rw [documentsIn, schemaFiles_concat, List.filterMap_append, documentsIn]
  cases isSchemaFile entry with
  | false => rfl
  | true => cases h : document? content entry <;> simp [h]

theorem document?_eq_some {stem : String} (hstem : stem? entry.name = some stem) {d : String × Json} :
    document? content entry = some d ↔ ∃ text schema, String.fromUTF8? (content entry.name) = some text ∧
      Json.parse? text = some schema ∧ d = ((idOf? schema).getD stem, schema) := by
  simp only [document?, hstem, Option.bind_eq_bind, Option.bind_some, Option.bind_eq_some_iff,
    Option.pure_def, Option.some_inj]
  constructor
  · rintro ⟨text, htext, schema, hschema, rfl⟩
    exact ⟨text, schema, htext, hschema, rfl⟩
  · rintro ⟨text, schema, htext, hschema, rfl⟩
    exact ⟨text, htext, schema, hschema, rfl⟩

theorem isSchemaFile_iff : isSchemaFile entry = true ↔
    (∃ stem, stem? entry.name = some stem) ∧ entry.kind = .file := by
  simp [isSchemaFile, Option.isSome_iff_exists]

/-- A schema file is not at fault if there is room for it, it is small enough and it has a document with
    a new key. -/
theorem fault?_file_eq_none {stem : String} (hstem : stem? entry.name = some stem)
    (hkind : entry.kind = .file) : fault? path config content before entry = none ↔
      (schemaFiles before).length < config.maxSchemas ∧
        (content entry.name).size ≤ config.maxFileSize ∧
        ∃ d, document? content entry = some d ∧ d.1 ∉ (documentsIn content before).map Prod.fst := by
  rw [fault?, hstem, hkind]
  dsimp only
  by_cases hcount : config.maxSchemas < (schemaFiles before).length + 1
  · rw [if_pos hcount]
    exact ⟨fun h => (nomatch h), fun h => absurd h.1 (by omega)⟩
  by_cases hsize : config.maxFileSize < (content entry.name).size
  · rw [if_neg hcount, if_pos hsize]
    exact ⟨fun h => (nomatch h), fun h => absurd h.2.1 (by omega)⟩
  rw [if_neg hcount, if_neg hsize]
  simp only [show (schemaFiles before).length < config.maxSchemas by omega,
    show (content entry.name).size ≤ config.maxFileSize by omega, true_and, document?_eq_some hstem]
  cases htext : String.fromUTF8? (content entry.name) with
  | none => simp
  | some text =>
    dsimp only
    cases hparse : Json.parse? text with
    | none => simp [hparse]
    | some schema =>
      dsimp only
      rw [ite_eq_right_iff]
      constructor
      · intro h
        exact ⟨_, ⟨text, schema, rfl, hparse, rfl⟩, fun hmem => nomatch h hmem⟩
      · rintro ⟨d, ⟨text', schema', htext', hparse', rfl⟩, hnew⟩ hmem
        cases htext'
        cases hparse.symm.trans hparse'
        exact absurd hmem hnew

theorem fault?_link {stem : String} (hstem : stem? entry.name = some stem)
    (hkind : entry.kind = .symlink) :
    fault? path config content before entry = some (.loadFailed (.symlink entry.name)) := by
  rw [fault?, hstem, hkind]

/-- An entry that is neither a schema file nor a link named like one is passed over. -/
theorem fault?_other (hfile : isSchemaFile entry = false)
    (hlink : (stem? entry.name).isSome → entry.kind ≠ .symlink) :
    fault? path config content before entry = none := by
  rw [fault?]
  cases hstem : stem? entry.name with
  | none => rfl
  | some stem =>
    cases hkind : entry.kind with
    | file => simp [isSchemaFile, hstem, hkind] at hfile
    | symlink => exact absurd hkind (hlink (by rw [hstem]; rfl))
    | directory | other => rfl

theorem faultless_concat : Faultless path config content (before ++ [entry]) ↔
    Faultless path config content before ∧ fault? path config content before entry = none := by
  constructor
  · intro h
    refine ⟨fun front x back hsplit => h front x (back ++ [entry]) ?_, h before entry [] rfl⟩
    rw [hsplit]
    simp
  · rintro ⟨hbefore, hentry⟩ front x back hsplit
    rcases List.eq_nil_or_concat back with rfl | ⟨back, y, rfl⟩
    · obtain ⟨rfl, hlast⟩ := List.append_inj' hsplit rfl
      cases hlast
      exact hentry
    · rw [List.concat_eq_append, ← List.cons_append, ← List.append_assoc] at hsplit
      exact hbefore front x back (List.append_inj' hsplit rfl).1

/-! ## The loop asks of each entry what a directory needs -/

theorem loadable_nil : Loadable config content [] where
  noLinks := by simp
  count := Nat.zero_le _
  size := by simp [schemaFiles]
  text := by simp [schemaFiles]
  keys := by simp [documentsIn, schemaFiles]

theorem loadable_concat_other (hfile : isSchemaFile entry = false) :
    Loadable config content (before ++ [entry]) ↔ Loadable config content before ∧
      ((stem? entry.name).isSome → entry.kind ≠ .symlink) := by
  have hfiles : schemaFiles (before ++ [entry]) = schemaFiles before := by simp [schemaFiles_concat, hfile]
  have hdocuments : documentsIn content (before ++ [entry]) = documentsIn content before := by
    rw [documentsIn, documentsIn, hfiles]
  constructor
  · intro h
    refine ⟨⟨fun e he => h.noLinks e (List.mem_append_left _ he), hfiles ▸ h.count, hfiles ▸ h.size,
      hfiles ▸ h.text, hdocuments ▸ h.keys⟩, h.noLinks entry (by simp)⟩
  · rintro ⟨h, hlink⟩
    refine ⟨fun e he => ?_, hfiles ▸ h.count, hfiles ▸ h.size, hfiles ▸ h.text, hdocuments ▸ h.keys⟩
    rcases List.mem_append.mp he with he | he
    · exact h.noLinks e he
    · obtain rfl := List.mem_singleton.mp he
      exact hlink

theorem loadable_concat_file {stem : String} (hstem : stem? entry.name = some stem)
    (hkind : entry.kind = .file) :
    Loadable config content (before ++ [entry]) ↔ Loadable config content before ∧
      (schemaFiles before).length < config.maxSchemas ∧ (content entry.name).size ≤ config.maxFileSize ∧
      ∃ d, document? content entry = some d ∧ d.1 ∉ (documentsIn content before).map Prod.fst := by
  have hfile : isSchemaFile entry = true := isSchemaFile_iff.mpr ⟨⟨stem, hstem⟩, hkind⟩
  have hfiles : schemaFiles (before ++ [entry]) = schemaFiles before ++ [entry] := by
    rw [schemaFiles_concat, if_pos hfile]
  have hdocuments : documentsIn content (before ++ [entry]) =
      documentsIn content before ++ (document? content entry).toList := by
    rw [documentsIn_concat, if_pos hfile]
  constructor
  · intro h
    have hkeys := h.keys
    have hcount := h.count
    rw [hfiles, List.length_append, List.length_singleton] at hcount
    obtain ⟨text, schema, htext, hschema⟩ := h.text entry (by simp [hfiles])
    have hd := (document?_eq_some hstem).mpr ⟨text, schema, htext, hschema, rfl⟩
    rw [hdocuments, hd, Option.toList_some, List.map_append, List.nodup_append] at hkeys
    refine ⟨⟨fun e he => h.noLinks e (List.mem_append_left _ he), by omega,
      fun e he => h.size e (by simp [hfiles, he]), fun e he => h.text e (by simp [hfiles, he]), hkeys.1⟩,
      by omega, h.size entry (by simp [hfiles]), _, hd, fun hmem => ?_⟩
    exact hkeys.2.2 _ hmem _ (by simp) rfl
  · rintro ⟨h, hcount, hsize, d, hd, hnew⟩
    obtain ⟨text, schema, htext, hschema, -⟩ := (document?_eq_some hstem).mp hd
    refine ⟨fun e he => ?_, ?_, fun e he => ?_, fun e he => ?_, ?_⟩
    · rcases List.mem_append.mp he with he | he
      · exact h.noLinks e he
      · obtain rfl := List.mem_singleton.mp he
        simp [hkind]
    · rw [hfiles, List.length_append, List.length_singleton]
      exact hcount
    · rcases List.mem_append.mp (hfiles ▸ he) with he | he
      · exact h.size e he
      · obtain rfl := List.mem_singleton.mp he
        exact hsize
    · rcases List.mem_append.mp (hfiles ▸ he) with he | he
      · exact h.text e he
      · obtain rfl := List.mem_singleton.mp he
        exact ⟨text, schema, htext, hschema⟩
    · rw [hdocuments, hd, Option.toList_some, List.map_append, List.map_singleton,
        ← List.concat_eq_append, List.nodup_concat]
      exact ⟨hnew, h.keys⟩

/-- The entries are loadable exactly if none of them is at fault after those before it. -/
theorem faultless_iff_loadable (path : String) :
    Faultless path config content entries ↔ Loadable config content entries := by
  induction entries using List.reverseRecOn with
  | nil => exact ⟨fun _ => loadable_nil, fun _ before entry after h => by simp at h⟩
  | append_singleton before entry ih =>
    rw [faultless_concat, ih]
    cases hfile : isSchemaFile entry with
    | true =>
      obtain ⟨⟨stem, hstem⟩, hkind⟩ := isSchemaFile_iff.mp hfile
      rw [loadable_concat_file hstem hkind, fault?_file_eq_none hstem hkind]
    | false =>
      rw [loadable_concat_other hfile]
      refine and_congr_right fun _ => ⟨fun hnone hsome hlink => ?_, fault?_other hfile⟩
      obtain ⟨stem, hstem⟩ := Option.isSome_iff_exists.mp hsome
      rw [fault?_link hstem hlink] at hnone
      cases hnone

/-- Whether entries are loadable does not depend on their order. -/
theorem Loadable.perm (h : Loadable config content entries) (hperm : entries.Perm entries') :
    Loadable config content entries' where
  noLinks e he := h.noLinks e (hperm.mem_iff.mpr he)
  count := ((hperm.filter _).length_eq.symm.le).trans h.count
  size e he := h.size e ((hperm.filter _).mem_iff.mpr he)
  text e he := h.text e ((hperm.filter _).mem_iff.mpr he)
  keys := ((((hperm.filter _).filterMap _).map _).nodup_iff).mp h.keys

/-! ## Running the loop -/

/-- The store after some entries: the documents in them, as it keeps them, and the number of files. -/
structure Loaded (config : StoreConfig) (content : String → ByteArray) (before : List DirectoryEntry)
    (loaded : Nat) (s : SchemaStore) : Prop where
  config_eq : s.config = config
  loaded_eq : loaded = (schemaFiles before).length
  entries_eq : s.documents.entries = (documentsIn content before).map fun d => (d.1, config.stored d.2)

variable {files : FileAccess Id} {loaded : Nat} {s : SchemaStore} {rest : List DirectoryEntry}

theorem loaded_new : Loaded config content [] 0 (new config) := ⟨rfl, rfl, rfl⟩

theorem Loaded.keys_eq (h : Loaded config content before loaded s) :
    s.documents.keys = (documentsIn content before).map Prod.fst := by
  rw [Table.keys, h.entries_eq, List.map_map]
  rfl

/-- Storing a document gives it its key, unless that is taken. -/
theorem insertValue_eq (s : SchemaStore) (name : String) (schema : Json) :
    s.insertValue name schema =
      if (idOf? schema).getD name ∈ s.documents.keys then .error (.duplicateKey ((idOf? schema).getD name))
      else .ok ({ s with documents := s.documents.set ((idOf? schema).getD name) (s.config.stored schema) },
        (idOf? schema).getD name) := by
  have hid : idOf? (s.config.stored schema) = idOf? schema := by
    rw [StoreConfig.stored]
    split
    · exact idOf?_closed schema
    · rfl
  show (if s.documents.contains ((idOf? (s.config.stored schema)).getD name) = true
      then Except.error (StoreError.duplicateKey ((idOf? (s.config.stored schema)).getD name))
      else .ok ({ s with documents :=
          s.documents.set ((idOf? (s.config.stored schema)).getD name) (s.config.stored schema) },
        (idOf? (s.config.stored schema)).getD name)) = _
  rw [hid]
  exact if_congr (s.documents.contains_iff _) rfl rfl

/-- A schema file at fault ends the loop with its fault. -/
theorem insertFile_of_fault (hl : Loaded config content before loaded s) {stem : String}
    (hstem : stem? entry.name = some stem) (hkind : entry.kind = .file)
    (hroom : ¬ config.maxSchemas < loaded + 1) {e : StoreError}
    (hfault : fault? path config content before entry = some e) :
    s.insertFile (joinPath path entry.name) stem (.ok (content entry.name)) = .error e := by
  rw [fault?, hstem, hkind] at hfault
  dsimp only at hfault
  rw [← hl.loaded_eq, if_neg hroom] at hfault
  rw [insertFile, hl.config_eq]
  by_cases hsize : config.maxFileSize < (content entry.name).size
  · rw [if_pos hsize] at hfault ⊢
    rw [Option.some_inj.mp hfault]
  rw [if_neg hsize] at hfault ⊢
  cases htext : String.fromUTF8? (content entry.name) with
  | none =>
    rw [htext] at hfault
    rw [Option.some_inj.mp hfault]
  | some text =>
    rw [htext] at hfault
    dsimp only at hfault ⊢
    rw [insert]
    cases hparse : Json.parse? text with
    | none =>
      rw [hparse] at hfault
      rw [← Option.some_inj.mp hfault]
      rfl
    | some schema =>
      rw [hparse] at hfault
      dsimp only at hfault ⊢
      rw [insertValue_eq, hl.keys_eq]
      obtain ⟨hmem, he⟩ := Option.ite_none_right_eq_some.mp hfault
      rw [if_pos hmem, ← Option.some_inj.mp he]
      rfl

/-- The document of a schema file that is not at fault is stored. -/
theorem insertFile_of_faultless (hl : Loaded config content before loaded s) {stem : String}
    (hstem : stem? entry.name = some stem) (hkind : entry.kind = .file)
    (hfault : fault? path config content before entry = none) :
    ∃ s', s.insertFile (joinPath path entry.name) stem (.ok (content entry.name)) = .ok s' ∧
      Loaded config content (before ++ [entry]) (loaded + 1) s' := by
  obtain ⟨-, hsize, d, hd, hnew⟩ := (fault?_file_eq_none hstem hkind).mp hfault
  obtain ⟨text, schema, htext, hschema, rfl⟩ := (document?_eq_some hstem).mp hd
  have hfile : isSchemaFile entry = true := isSchemaFile_iff.mpr ⟨⟨stem, hstem⟩, hkind⟩
  refine ⟨{ s with documents := s.documents.set ((idOf? schema).getD stem) (config.stored schema) }, ?_,
    hl.config_eq, ?_, ?_⟩
  · rw [insertFile, hl.config_eq, if_neg (by omega), htext]
    dsimp only
    rw [insert, hschema]
    dsimp only
    rw [insertValue_eq, hl.keys_eq, if_neg hnew, hl.config_eq]
    rfl
  · rw [schemaFiles_concat, if_pos hfile, List.length_append, hl.loaded_eq]
    rfl
  · rw [Table.entries_set_of_notMem (by rw [hl.keys_eq]; exact hnew), hl.entries_eq, documentsIn_concat,
      if_pos hfile, hd, List.map_append]
    rfl

/-- One round of the loop: it ends with the fault of the entry, or it goes on without one. -/
theorem loadEntries_cons (rest : List DirectoryEntry) (hl : Loaded config content before loaded s)
    (hread : entry.kind = .file → Id.run (files.read (joinPath path entry.name)) = .ok (content entry.name)) :
    (∃ e, fault? path config content before entry = some e ∧
      Id.run (loadEntries files path loaded s (entry :: rest)) = .error e) ∨
    (fault? path config content before entry = none ∧ ∃ loaded' s',
      Loaded config content (before ++ [entry]) loaded' s' ∧
      Id.run (loadEntries files path loaded s (entry :: rest)) =
        Id.run (loadEntries files path loaded' s' rest)) := by
  rw [loadEntries]
  cases hfile : isSchemaFile entry with
  | true =>
    obtain ⟨⟨stem, hstem⟩, hkind⟩ := isSchemaFile_iff.mp hfile
    have hcontent : files.read (joinPath path entry.name) = .ok (content entry.name) := hread hkind
    rw [hstem, hkind]
    simp only [Id.run, bind, pure, hcontent, hl.config_eq]
    by_cases hroom : config.maxSchemas < loaded + 1
    · left
      refine ⟨.loadFailed (.tooMany config.maxSchemas (loaded + 1)), ?_, by rw [if_pos hroom]⟩
      rw [fault?, hstem, hkind]
      dsimp only
      rw [← hl.loaded_eq, if_pos hroom]
    · rw [if_neg hroom]
      cases hfault : fault? path config content before entry with
      | some e =>
        left
        refine ⟨e, rfl, ?_⟩
        rw [insertFile_of_fault hl hstem hkind hroom hfault]
      | none =>
        obtain ⟨s', hinsert, hl'⟩ := insertFile_of_faultless hl hstem hkind hfault
        right
        refine ⟨rfl, loaded + 1, s', hl', ?_⟩
        rw [hinsert]
  | false =>
    have hpassed : Loaded config content (before ++ [entry]) loaded s := by
      refine ⟨hl.config_eq, ?_, ?_⟩
      · rw [schemaFiles_concat, hfile, hl.loaded_eq]
        simp
      · rw [documentsIn_concat, hfile, hl.entries_eq]
        simp
    cases hstem : stem? entry.name with
    | none => exact .inr ⟨fault?_other hfile (by simp [hstem]), loaded, s, hpassed, rfl⟩
    | some stem =>
      cases hkind : entry.kind with
      | symlink => exact .inl ⟨_, fault?_link hstem hkind, rfl⟩
      | file => simp [isSchemaFile, hstem, hkind] at hfile
      | directory | other =>
        exact .inr ⟨fault?_other hfile fun _ => by simp [hkind], loaded, s, hpassed, rfl⟩

/-- The whole loop, by induction on the entries to come: it ends at the first entry at fault, or the store
    has the documents of all of them. -/
theorem loadEntries_run (hl : Loaded config content before loaded s)
    (hbefore : Faultless path config content before)
    (hread : ∀ entry ∈ rest, entry.kind = .file →
      Id.run (files.read (joinPath path entry.name)) = .ok (content entry.name)) :
    (∃ front entry back e, rest = front ++ entry :: back ∧
      Faultless path config content (before ++ front) ∧
      fault? path config content (before ++ front) entry = some e ∧
      Id.run (loadEntries files path loaded s rest) = .error e) ∨
    (Faultless path config content (before ++ rest) ∧ ∃ loaded' s',
      Loaded config content (before ++ rest) loaded' s' ∧
      Id.run (loadEntries files path loaded s rest) = .ok s') := by
  induction rest generalizing before loaded s with
  | nil => exact .inr ⟨by rwa [List.append_nil], loaded, s, by rwa [List.append_nil], rfl⟩
  | cons entry rest ih =>
    obtain ⟨hentry, hrest⟩ := List.forall_mem_cons.mp hread
    rcases loadEntries_cons rest hl hentry with ⟨e, hfault, hrun⟩ | ⟨hnone, loaded', s', hl', hrun⟩
    · exact .inl ⟨[], entry, rest, e, rfl, by rwa [List.append_nil], by rwa [List.append_nil], hrun⟩
    · have hmore : before ++ entry :: rest = before ++ [entry] ++ rest := by simp
      rw [hrun, hmore]
      rcases ih hl' (faultless_concat.mpr ⟨hbefore, hnone⟩) hrest with
        ⟨front, x, back, e, hsplit, hfront, hfault, herror⟩ | hdone
      · refine .inl ⟨entry :: front, x, back, e, by rw [hsplit]; rfl, ?_, ?_, herror⟩
        · simpa using hfront
        · simpa using hfault
      · exact .inr hdone

/-- The loop reads nothing but the files among the entries. -/
theorem loadEntries_congr {files' : FileAccess Id} (h : ∀ entry ∈ rest, entry.kind = .file →
      files'.read (joinPath path entry.name) = files.read (joinPath path entry.name)) :
    loadEntries files' path loaded s rest = loadEntries files path loaded s rest := by
  induction rest generalizing loaded s with
  | nil => rfl
  | cons entry rest ih =>
    obtain ⟨hentry, hrest⟩ := List.forall_mem_cons.mp h
    simp only [loadEntries, ih hrest]
    cases stem? entry.name with
    | none => rfl
    | some stem =>
      cases hkind : entry.kind with
      | file => rw [hentry hkind]
      | symlink | directory | other => rfl

/-! ## Entries in the order of their names -/

/-- The entries of a directory sorted by their names, which are distinct. -/
theorem pairwise_sorted (h : (entries.map (·.name)).Nodup) :
    (entries.mergeSort fun a b => a.name ≤ b.name).Pairwise fun a b => a.name < b.name := by
  have hle : (entries.mergeSort fun a b => a.name ≤ b.name).Pairwise fun a b =>
      decide (a.name ≤ b.name) = true := by
    refine List.pairwise_mergeSort (fun a b c hab hbc => ?_) (fun a b => ?_) entries
    · exact decide_eq_true (le_trans (of_decide_eq_true hab) (of_decide_eq_true hbc))
    · simpa using le_total a.name b.name
  have hne : (entries.mergeSort fun a b => a.name ≤ b.name).Pairwise fun a b => a.name ≠ b.name :=
    List.pairwise_map.mp (((List.mergeSort_perm _ _).map _).nodup_iff.mpr h)
  exact (hle.and hne).imp fun hab => lt_of_le_of_ne (of_decide_eq_true hab.1) hab.2

/-- There is one way only to sort them. -/
theorem sorted_eq_of_perm (h : (entries.map (·.name)).Nodup) (hperm : entries'.Perm entries) :
    (entries'.mergeSort fun a b => a.name ≤ b.name) = entries.mergeSort fun a b => a.name ≤ b.name := by
  have h' : (entries'.map (·.name)).Nodup := ((hperm.map _).nodup_iff).mpr h
  refine List.Perm.eq_of_pairwise (fun a b _ _ hab hba => absurd hba (lt_asymm hab)) (pairwise_sorted h')
    (pairwise_sorted h) ?_
  exact (List.mergeSort_perm _ _).trans (hperm.trans (List.mergeSort_perm _ _).symm)

/-- Only one entry can be the first at fault. -/
theorem first_fault_unique {front front' back back' : List DirectoryEntry} {x x' : DirectoryEntry}
    {e e' : StoreError} (hsplit : front ++ x :: back = front' ++ x' :: back')
    (hfront : Faultless path config content front) (hfront' : Faultless path config content front')
    (hfault : fault? path config content front x = some e)
    (hfault' : fault? path config content front' x' = some e') : e = e' := by
  rcases List.append_eq_append_iff.mp hsplit with ⟨mid, rfl, hmid⟩ | ⟨mid, rfl, hmid⟩
  · cases mid with
    | nil =>
      cases hmid
      rw [List.append_nil, hfault] at hfault'
      exact Option.some_inj.mp hfault'
    | cons y mid =>
      cases hmid
      rw [hfront' front x mid rfl] at hfault
      cases hfault
  · cases mid with
    | nil =>
      cases hmid
      rw [List.append_nil, hfault'] at hfault
      exact (Option.some_inj.mp hfault).symm
    | cons y mid =>
      cases hmid
      rw [hfront front' x' mid rfl] at hfault'
      cases hfault'

/-! ## Loading a directory -/

theorem ofDirectory_eq (h : Holds files path entries content) :
    Id.run (ofDirectory files path config) =
      Id.run (loadEntries files path 0 (new config) (entries.mergeSort fun a b => a.name ≤ b.name)) := by
  have hlisted : files.list path = .ok entries := h.listed
  simp only [ofDirectory, Id.run, bind, hlisted]

/-- What loading a directory gives, by its entries in the order of their names. -/
theorem ofDirectory_run (config : StoreConfig) (h : Holds files path entries content) :
    (∃ before entry after e, (entries.mergeSort fun a b => a.name ≤ b.name) = before ++ entry :: after ∧
      Faultless path config content before ∧ fault? path config content before entry = some e ∧
      Id.run (ofDirectory files path config) = .error e) ∨
    (Loadable config content entries ∧ ∃ loaded s,
      Loaded config content (entries.mergeSort fun a b => a.name ≤ b.name) loaded s ∧
      Id.run (ofDirectory files path config) = .ok s) := by
  have hperm := List.mergeSort_perm entries fun a b => a.name ≤ b.name
  have hnone : Faultless path config content [] := fun before entry after hnil => by simp at hnil
  rw [ofDirectory_eq h]
  rcases loadEntries_run loaded_new hnone fun entry hentry => h.contents entry (hperm.mem_iff.mp hentry) with
    hfault | ⟨hfaultless, hdone⟩
  · exact .inl hfault
  · exact .inr ⟨((faultless_iff_loadable path).mp hfaultless).perm hperm, hdone⟩

/-- A directory that is loadable has no first entry at fault, in whatever order. -/
theorem Loadable.not_fault (h : Loadable config content entries) {after : List DirectoryEntry} {e : StoreError}
    (hperm : entries.Perm (before ++ entry :: after)) :
    fault? path config content before entry ≠ some e := by
  intro hfault
  rw [(faultless_iff_loadable path).mpr (h.perm hperm) before entry after rfl] at hfault
  cases hfault

/-- The documents of a store that loaded all entries. -/
theorem Loaded.documents_eq (hl : Loaded config content entries' loaded s) (hperm : entries'.Perm entries)
    (h : Loadable config content entries) :
    s.size = (schemaFiles entries).length ∧
    ∀ key schema, s.get? key = some schema ↔ ∃ entry ∈ schemaFiles entries, ∃ found,
      document? content entry = some (key, found) ∧ schema = config.stored found := by
  constructor
  · have hdocuments : (documentsIn content entries).length = (schemaFiles entries).length := by
      refine List.filterMap_length_eq_length.mpr fun entry hentry => ?_
      obtain ⟨⟨stem, hstem⟩, -⟩ := isSchemaFile_iff.mp (List.mem_filter.mp hentry).2
      obtain ⟨text, schema, htext, hschema⟩ := h.text entry hentry
      rw [(document?_eq_some hstem).mpr ⟨text, schema, htext, hschema, rfl⟩]
      rfl
    rw [size, hl.entries_eq, List.length_map, ← hdocuments]
    exact ((hperm.filter _).filterMap _).length_eq
  · intro key schema
    have hmem : ∀ d, d ∈ documentsIn content entries' ↔ ∃ entry ∈ schemaFiles entries,
        document? content entry = some d := fun d => by
      rw [documentsIn, List.mem_filterMap]
      exact exists_congr fun entry => and_congr_left fun _ => (hperm.filter _).mem_iff
    rw [get?, ← Table.mem_entries_iff, hl.entries_eq, List.mem_map]
    constructor
    · rintro ⟨d, hd, heq⟩
      obtain ⟨entry, hentry, hfound⟩ := (hmem d).mp hd
      obtain ⟨rfl, rfl⟩ := Prod.mk.inj heq
      exact ⟨entry, hentry, d.2, hfound, rfl⟩
    · rintro ⟨entry, hentry, found, hfound, rfl⟩
      exact ⟨(key, found), (hmem _).mpr ⟨entry, hentry, hfound⟩, rfl⟩

/-- Loading a directory whose files can be read.  It succeeds exactly if no link is named like a schema
    file, there are not too many schema files, each is small enough and holds the text of a JSON value,
    and their keys are distinct.  The store then holds one document for each schema file.  Otherwise the
    error is the fault of the first entry, by name, that is at fault after those before it.  The order in
    which the directory is listed does not matter. -/
theorem loading_a_directory {files : FileAccess Id} {path : String} {entries : List DirectoryEntry}
    {content : String → ByteArray} (h : Holds files path entries content) (config : StoreConfig) :
    ((∃ s, Id.run (ofDirectory files path config) = .ok s) ↔ Loadable config content entries) ∧
    (∀ s, Id.run (ofDirectory files path config) = .ok s →
      s.config = config ∧ s.size = (schemaFiles entries).length ∧
      ∀ key schema, s.get? key = some schema ↔ ∃ entry ∈ schemaFiles entries, ∃ found,
        document? content entry = some (key, found) ∧ schema = config.stored found) ∧
    (∃ sorted, sorted.Perm entries ∧ (sorted.Pairwise fun a b => a.name < b.name) ∧
      ∀ e, Id.run (ofDirectory files path config) = .error e ↔ ∃ before entry after,
        sorted = before ++ entry :: after ∧ Faultless path config content before ∧
        fault? path config content before entry = some e) ∧
    (∀ (files' : FileAccess Id) entries', Holds files' path entries' content → entries'.Perm entries →
      Id.run (ofDirectory files' path config) = Id.run (ofDirectory files path config)) := by
  have hperm := List.mergeSort_perm entries fun a b => a.name ≤ b.name
  have hrun := ofDirectory_run config h
  refine ⟨⟨?_, fun hloadable => ?_⟩, fun s hs => ?_, ⟨_, hperm, pairwise_sorted h.distinct, fun e => ?_⟩, ?_⟩
  · rintro ⟨s, hs⟩
    rcases hrun with ⟨_, _, _, e, _, _, _, herror⟩ | ⟨hloadable, -⟩
    · cases hs.symm.trans herror
    · exact hloadable
  · rcases hrun with ⟨before, entry, after, e, hsplit, -, hfault, -⟩ | ⟨-, loaded, s, -, hs⟩
    · exact absurd hfault (hloadable.not_fault (hsplit ▸ hperm.symm))
    · exact ⟨s, hs⟩
  · rcases hrun with ⟨_, _, _, e, _, _, _, herror⟩ | ⟨hloadable, loaded, s', hl, hs'⟩
    · cases hs.symm.trans herror
    · cases hs.symm.trans hs'
      exact ⟨hl.config_eq, hl.documents_eq hperm hloadable⟩
  · constructor
    · intro he
      rcases hrun with ⟨before, entry, after, e', hsplit, hbefore, hfault, herror⟩ | ⟨-, _, _, -, hs⟩
      · cases he.symm.trans herror
        exact ⟨before, entry, after, hsplit, hbefore, hfault⟩
      · cases he.symm.trans hs
    · rintro ⟨before, entry, after, hsplit, hbefore, hfault⟩
      rcases hrun with ⟨before', entry', after', e', hsplit', hbefore', hfault', herror⟩ | ⟨hloadable, -⟩
      · rw [herror, first_fault_unique (hsplit.symm.trans hsplit') hbefore hbefore' hfault hfault']
      · exact absurd hfault (hloadable.not_fault (hsplit ▸ hperm.symm))
  · intro files' entries' h' hlisting
    rw [ofDirectory_eq h, ofDirectory_eq h', sorted_eq_of_perm h.distinct hlisting]
    refine congrArg Id.run (loadEntries_congr fun entry hentry hkind => ?_)
    have hmem : entry ∈ entries := hperm.mem_iff.mp hentry
    exact (h'.contents entry (hlisting.mem_iff.mpr hmem) hkind).trans (h.contents entry hmem hkind).symm

/-- A directory with two schema files and a directory that is named like one, in no order. -/
def twoSchemas : FileAccess Id where
  read _ := .ok "true".toUTF8
  list _ := .ok [⟨"port.schema.json", .file⟩, ⟨"old.schema.json", .directory⟩, ⟨"host.schema.json", .file⟩]

/-- The two files are stored, under the stems of their names. -/
theorem twoSchemas_loaded : ∃ s, Id.run (ofDirectory twoSchemas "refs" {}) = .ok s ∧ s.size = 2 ∧
    s.get? "host" = some (.bool true) := by
  have htext : String.fromUTF8? "true".toUTF8 = some "true" := by decide +kernel
  have hparse : Json.parse? "true" = some (.bool true) := by rfl
  have hholds : Holds twoSchemas "refs" [⟨"port.schema.json", .file⟩, ⟨"old.schema.json", .directory⟩,
      ⟨"host.schema.json", .file⟩] fun _ => "true".toUTF8 := ⟨rfl, by decide, fun _ _ _ => rfl⟩
  obtain ⟨hloads, hstore, -⟩ := loading_a_directory hholds {}
  obtain ⟨s, hs⟩ := hloads.mpr ⟨by decide +kernel, by decide +kernel, by decide +kernel,
    fun _ _ => ⟨"true", .bool true, htext, hparse⟩, by decide +kernel⟩
  obtain ⟨-, hsize, hget⟩ := hstore s hs
  have hhost : stem? "host.schema.json" = some "host" := by decide +kernel
  have hfiles : schemaFiles [⟨"port.schema.json", .file⟩, ⟨"old.schema.json", .directory⟩,
      ⟨"host.schema.json", .file⟩] = [⟨"port.schema.json", .file⟩, ⟨"host.schema.json", .file⟩] := by
    rw [schemaFiles, List.filter_cons_of_pos (by decide +kernel), List.filter_cons_of_neg (by decide +kernel),
      List.filter_cons_of_pos (by decide +kernel), List.filter_nil]
  rw [hfiles] at hsize hget
  refine ⟨s, hs, hsize, (hget "host" (.bool true)).mpr ⟨⟨"host.schema.json", .file⟩, by simp, .bool true,
    ?_, rfl⟩⟩
  exact (document?_eq_some hhost).mpr ⟨"true", .bool true, htext, hparse, rfl⟩

end SchemaStore

end JsonSchema
