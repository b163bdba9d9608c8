/-!
# Tables

A table gives at most one value to a key and keeps its keys in the order in which they came in.
Main statements: what a key holds after each operation (`get?_set`, `get?_erase`).
-/

set_option autoImplicit false

namespace JsonSchema

structure Table (κ α : Type) where
  entries : List (κ × α)
  nodup : (entries.map Prod.fst).Nodup

namespace Table

variable {κ α : Type}

def empty : Table κ α := ⟨[], .nil⟩

instance : Inhabited (Table κ α) := ⟨empty⟩

/-- The keys, oldest first. -/
def keys (t : Table κ α) : List κ := t.entries.map Prod.fst

variable [DecidableEq κ]

def get? (t : Table κ α) (key : κ) : Option α := t.entries.lookup key

def contains (t : Table κ α) (key : κ) : Bool := (t.get? key).isSome

private theorem map_fst_replace (key : κ) (value : α) (entries : List (κ × α)) :
    (entries.map fun e => if e.1 = key then (key, value) else e).map Prod.fst = entries.map Prod.fst := by
  rw [List.map_map]
  apply List.map_congr_left
  intro e _
  by_cases h : e.1 = key <;> simp [h]

/-- Gives a key a value: in its place if the key is there, else at the end. -/
def set (t : Table κ α) (key : κ) (value : α) : Table κ α :=
  if h : key ∈ t.entries.map Prod.fst then
    ⟨t.entries.map fun e => if e.1 = key then (key, value) else e, by
      rw [map_fst_replace]; exact t.nodup⟩
  else
    ⟨t.entries ++ [(key, value)], by
      rw [List.map_append, List.nodup_append]
      refine ⟨t.nodup, by simp, ?_⟩
      rintro a ha b hb rfl
      simp only [List.map_cons, List.map_nil, List.mem_singleton] at hb
      exact h (hb ▸ ha)⟩

def erase (t : Table κ α) (key : κ) : Table κ α :=
  ⟨t.entries.filter (·.1 ≠ key), t.nodup.sublist (List.filter_sublist.map _)⟩

/-- Keeps the entries that `f` gives a new value. -/
def filterMap {β : Type} (f : κ → α → Option β) (t : Table κ α) : Table κ β where
  entries := t.entries.filterMap fun e => (f e.1 e.2).map (e.1, ·)
  nodup := by
    have sub : ∀ es : List (κ × α),
        ((es.filterMap fun e => (f e.1 e.2).map (e.1, ·)).map Prod.fst).Sublist (es.map Prod.fst) := by
      intro es
      induction es with
      | nil => exact .slnil
      | cons e rest ih =>
        cases h : f e.1 e.2 with
        | none => simpa [h] using ih.cons _
        | some v => simpa [h] using ih.cons_cons e.1
    exact t.nodup.sublist (sub t.entries)

/-- The table of the pairs; of two with one key the later one counts. -/
def ofList (entries : List (κ × α)) : Table κ α :=
  entries.foldl (fun t e => t.set e.1 e.2) empty

/-! ## What a key holds -/

@[simp] theorem get?_empty (key : κ) : (empty : Table κ α).get? key = none := rfl

private theorem lookup_cons_ne {key k : κ} (h : key ≠ k) (v : α) (rest : List (κ × α)) :
    ((k, v) :: rest).lookup key = rest.lookup key := by
  have : (key == k) = false := by simpa using h
  rw [List.lookup_cons, this]

private theorem lookup_replace (key other : κ) (value : α) (entries : List (κ × α)) :
    (entries.map fun e => if e.1 = key then (key, value) else e).lookup other =
      if other = key then (if key ∈ entries.map Prod.fst then some value else none)
      else entries.lookup other := by
  induction entries with
  | nil => simp
  | cons e rest ih =>
    obtain ⟨k, v⟩ := e
    by_cases ho : other = k
    · by_cases hk : k = key
      · simp [ho, hk]
      · simp [ho, hk]
    · rw [lookup_cons_ne ho]
      by_cases hk : k = key
      · subst hk
        simp only [List.map_cons, if_true, lookup_cons_ne ho, ih, if_neg ho]
      · have hk' : key ≠ k := fun h => hk h.symm
        simp only [List.map_cons, if_neg hk, lookup_cons_ne ho, ih, List.mem_cons, hk', false_or]

private theorem lookup_eq_none_of_notMem {key : κ} {entries : List (κ × α)}
    (h : key ∉ entries.map Prod.fst) : entries.lookup key = none := by
  induction entries with
  | nil => rfl
  | cons e rest ih =>
    simp only [List.map_cons, List.mem_cons, not_or] at h
    rw [lookup_cons_ne h.1]
    exact ih h.2

private theorem lookup_filter_ne (key other : κ) (entries : List (κ × α)) :
    (entries.filter (·.1 ≠ key)).lookup other = if other = key then none else entries.lookup other := by
  induction entries with
  | nil => simp
  | cons e rest ih =>
    obtain ⟨k, v⟩ := e
    by_cases hk : k = key
    · rw [List.filter_cons_of_neg (by simpa using hk), ih]
      by_cases ho : other = k
      · simp [ho, hk]
      · rw [lookup_cons_ne ho]
    · rw [List.filter_cons_of_pos (by simpa using hk)]
      by_cases ho : other = k
      · simp [ho, hk]
      · rw [lookup_cons_ne ho, lookup_cons_ne ho, ih]

theorem get?_set (t : Table κ α) (key other : κ) (value : α) :
    (t.set key value).get? other = if other = key then some value else t.get? other := by
  unfold set get?
  split
  · next h => simp only [lookup_replace, h, if_true]
  · next h =>
    rw [List.lookup_append]
    by_cases ho : other = key
    · subst ho; simp [lookup_eq_none_of_notMem h]
    · simp [lookup_cons_ne ho, ho]

theorem get?_erase (t : Table κ α) (key other : κ) :
    (t.erase key).get? other = if other = key then none else t.get? other :=
  lookup_filter_ne key other t.entries

theorem get?_filterMap {β : Type} (f : κ → α → Option β) (t : Table κ α) (key : κ) :
    (t.filterMap f).get? key = (t.get? key).bind (f key) := by
  obtain ⟨entries, hnodup⟩ := t
  show (entries.filterMap fun e => (f e.1 e.2).map (e.1, ·)).lookup key = (entries.lookup key).bind (f key)
  induction entries with
  | nil => rfl
  | cons e rest ih =>
    obtain ⟨k, v⟩ := e
    obtain ⟨hnew, hrest⟩ := List.nodup_cons.mp hnodup
    by_cases hkey : key = k
    · subst hkey
      have hnone : rest.lookup key = none := lookup_eq_none_of_notMem hnew
      cases hvalue : f key v with
      | none => simpa [hvalue, hnone] using ih hrest
      | some w => simp [hvalue]
    · rw [lookup_cons_ne hkey, ← ih hrest]
      cases hvalue : f k v with
      | none => simp [hvalue]
      | some w =>
        simp only [List.filterMap_cons, hvalue, Option.map_some]
        rw [lookup_cons_ne hkey]

/-! ## Entries -/

omit [DecidableEq κ] in
theorem eq_of_entries {t t' : Table κ α} (h : t.entries = t'.entries) : t = t' := by
  cases t
  cases t'
  cases h
  rfl

/-- An entry of a table is what its key holds. -/
theorem mem_entries_iff (t : Table κ α) (key : κ) (value : α) :
    (key, value) ∈ t.entries ↔ t.get? key = some value := by
  constructor
  · intro h
    obtain ⟨before, after, hentries⟩ := List.append_of_mem h
    have hnodup := t.nodup
    refine List.lookup_eq_some_iff.mpr ⟨before, after, hentries, fun p hp => ?_⟩
    rw [hentries, List.map_append, List.nodup_append] at hnodup
    have hne := hnodup.2.2 p.1 (List.mem_map_of_mem hp) key (by simp)
    simpa using hne.symm
  · intro h
    obtain ⟨before, after, hentries, -⟩ := List.lookup_eq_some_iff.mp h
    rw [hentries]
    simp

theorem mem_keys_iff (t : Table κ α) (key : κ) : key ∈ t.keys ↔ ∃ value, t.get? key = some value := by
  constructor
  · intro h
    obtain ⟨e, he, rfl⟩ := List.mem_map.mp h
    exact ⟨e.2, (t.mem_entries_iff e.1 e.2).mp he⟩
  · rintro ⟨value, h⟩
    exact List.mem_map.mpr ⟨(key, value), (t.mem_entries_iff key value).mpr h, rfl⟩

theorem contains_iff (t : Table κ α) (key : κ) : t.contains key = true ↔ key ∈ t.keys := by
  rw [mem_keys_iff, contains, Option.isSome_iff_exists]

theorem get?_eq_none_iff (t : Table κ α) (key : κ) : t.get? key = none ↔ key ∉ t.keys := by
  rw [← contains_iff, contains, Option.not_isSome_iff_eq_none]

theorem entries_set_of_mem {t : Table κ α} {key : κ} (h : key ∈ t.keys) (value : α) :
    (t.set key value).entries = t.entries.map fun e => if e.1 = key then (key, value) else e := by
  unfold keys at h
  unfold set
  rw [dif_pos h]

theorem entries_set_of_notMem {t : Table κ α} {key : κ} (h : key ∉ t.keys) (value : α) :
    (t.set key value).entries = t.entries ++ [(key, value)] := by
  unfold keys at h
  unfold set
  rw [dif_neg h]

theorem mem_keys_set (t : Table κ α) (key other : κ) (value : α) :
    other ∈ (t.set key value).keys ↔ other = key ∨ other ∈ t.keys := by
  rw [mem_keys_iff, get?_set, mem_keys_iff]
  by_cases h : other = key
  · simp [h]
  · simp [h]

/-- Nothing is left of what a key was given once the key is gone. -/
theorem erase_set (t : Table κ α) (key : κ) (value : α) : (t.set key value).erase key = t.erase key := by
  apply eq_of_entries
  show (t.set key value).entries.filter (·.1 ≠ key) = t.entries.filter (·.1 ≠ key)
  by_cases h : key ∈ t.keys
  · rw [entries_set_of_mem h, List.filter_map]
    have hkept : (fun e : κ × α => decide (e.1 ≠ key)) ∘
        (fun e => if e.1 = key then (key, value) else e) = fun e => decide (e.1 ≠ key) := by
      funext e
      by_cases he : e.1 = key <;> simp [he]
    rw [hkept, List.map_congr_left (g := id) fun e he => ?_, List.map_id]
    have hne : e.1 ≠ key := by simpa using (List.mem_filter.mp he).2
    rw [if_neg hne, id]
  · rw [entries_set_of_notMem h, List.filter_append]
    simp

theorem erase_eq_self {t : Table κ α} {key : κ} (h : key ∉ t.keys) : t.erase key = t := by
  apply eq_of_entries
  refine List.filter_eq_self.mpr fun e he => ?_
  have hne : e.1 ≠ key := fun heq => h (heq ▸ List.mem_map_of_mem he)
  simpa using hne

/-- Pairs with different keys are the entries of their table. -/
theorem entries_ofList {entries : List (κ × α)} (h : (entries.map Prod.fst).Nodup) :
    (ofList entries).entries = entries := by
  have hfold : ∀ (rest : List (κ × α)) (t : Table κ α), ((t.entries ++ rest).map Prod.fst).Nodup →
      (rest.foldl (fun t e => t.set e.1 e.2) t).entries = t.entries ++ rest := by
    intro rest
    induction rest with
    | nil => simp
    | cons e rest ih =>
      intro t hnodup
      have hnew : e.1 ∉ t.keys := by
        rw [List.map_append, List.nodup_append] at hnodup
        exact fun hmem => hnodup.2.2 _ hmem e.1 (by simp) rfl
      have hset := entries_set_of_notMem hnew e.2
      rw [List.foldl_cons, ih _ (by rw [hset]; simpa using hnodup), hset]
      simp
  exact hfold entries empty h

end Table

end JsonSchema
