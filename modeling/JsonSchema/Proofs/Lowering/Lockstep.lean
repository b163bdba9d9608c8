import JsonSchema.Proofs.Lowering.Visits

/-!
# Lowering in lockstep

Two compilations of one schema can differ in where its references lead: to other values, under other
keys, from another base.  As long as **each reference leads to something on the one side exactly if it
does on the other, and two references to the same on the one side exactly if they do on the other**, the
two open and fill their procedures one by one, in the same order (`Mirror.behind`).  The procedures of
the one may stand behind some that the other does not have.

Main statement: `KeywordPlace.procedureOf_mirrors`, the step that a reference takes.
-/

set_option autoImplicit false

namespace JsonSchema

/-- An entry of the list of procedures and its image: under a related key, opened at the same depth, and
    filled with the same body if at all. -/
structure Procedure.Mirrored (K : String → String → Prop) (f : Nat → Nat) (q q' : Procedure) : Prop where
  key : K q.target.key q'.target.key
  descents : q'.descents = q.descents
  body : q'.body = q.body.map (Node.renumber f)

/-- The mirror in which the procedures stand behind some others. -/
def Mirror.behind (front : List Procedure) (K : String → String → Prop)
    (errors : SchemaError → SchemaError → Prop) (same : ∀ e, errors e e) : Mirror where
  procedures procedures procedures' := ∃ rest, procedures' = front ++ rest ∧
    List.Forall₂ (Procedure.Mirrored K (· + front.length)) procedures rest
  errors := errors
  same := same
  number := (· + front.length)

section

open LowerM

variable {lower lower' : Lower} {front : List Procedure} {K : String → String → Prop}
  {errors : SchemaError → SchemaError → Prop} {same : ∀ e, errors e e}

/-- Two answers to a reference: both have no target, or both have one, not among the procedures in front,
    and lowering the one target mirrors lowering the other. -/
inductive Target.Mirrored (front : List Procedure) (K : String → String → Prop)
    (errors : SchemaError → SchemaError → Prop) (same : ∀ e, errors e e) (lower lower' : Lower)
    (descents : Nat) : Except SchemaError Target → Except SchemaError Target → Prop where
  | missing {e e' : SchemaError} : errors e e' →
      Mirrored front K errors same lower lower' descents (.error e) (.error e')
  | found {target target' : Target} : K target.key target'.key →
      (∀ q ∈ front, q.target.key ≠ target'.key) →
      Mirrors (.behind front K errors same) (Node.renumber (· + front.length))
        (lower target.schema (.ofTarget target descents))
        (lower' target'.schema (.ofTarget target' descents)) →
      Mirrored front K errors same lower lower' descents (.ok target) (.ok target')

/-- The steps of a reference, one after the other. -/
theorem KeywordPlace.procedureOf_eq (p : KeywordPlace) (reference : String)
    (procedures : List Procedure) :
    p.procedureOf lower reference procedures =
      match p.env.documents.resolve p.position.base reference with
      | .error e => .error e
      | .ok target =>
        match procedures.findIdx? (·.target.key = target.key) with
        | some i =>
          if procedures[i]?.any fun q => q.body.isNone && q.descents = p.position.descents then
            .error (.compilation "$ref" p.schemaPath
              s!"reference {reference} loops back without moving into the data")
          else .ok (i, procedures)
        | none =>
          (lower target.schema (.ofTarget target p.position.descents)
            (procedures ++ [⟨target, p.position.descents, none⟩])).map fun r =>
              (procedures.length, r.2.modify procedures.length (·.fill r.1)) := by
  unfold procedureOf
  cases p.env.documents.resolve p.position.base reference with
  | error e => rfl
  | ok target =>
    simp only [bind, StateT.bind, liftExcept, Except.map, Except.bind, get, getThe, MonadStateOf.get,
      StateT.get, pure, Except.pure]
    cases procedures.findIdx? (·.target.key = target.key) with
    | some i =>
      dsimp only
      split <;> rfl
    | none =>
      show Except.bind (lower target.schema (.ofTarget target p.position.descents)
        (procedures ++ [⟨target, p.position.descents, none⟩]))
        (fun r => .ok (procedures.length, r.2.modify procedures.length (·.fill r.1))) = _
      cases lower target.schema (.ofTarget target p.position.descents)
        (procedures ++ [⟨target, p.position.descents, none⟩]) <;> rfl

/-- Entries are found at the same place, behind those in front. -/
theorem findIdx?_behind (hK : ∀ {a b a' b'}, K a a' → K b b' → (a = b ↔ a' = b')) {key key' : String}
    (hkey : K key key') (hfront : ∀ q ∈ front, q.target.key ≠ key') {f : Nat → Nat}
    {procedures rest : List Procedure} (h : List.Forall₂ (Procedure.Mirrored K f) procedures rest) :
    (front ++ rest).findIdx? (·.target.key = key') =
      (procedures.findIdx? (·.target.key = key)).map (· + front.length) := by
  have hnone : front.findIdx? (·.target.key = key') = none := by
    simpa using hfront
  have hrest : rest.findIdx? (·.target.key = key') = procedures.findIdx? (·.target.key = key) := by
    induction h with
    | nil => rfl
    | cons hq _ ih =>
      rw [List.findIdx?_cons, List.findIdx?_cons, ih]
      simp only [decide_eq_true_eq, hK hq.key hkey]
  rw [List.findIdx?_append, hnone, hrest]
  rfl

/-- Entries are open at the same depths, behind those in front. -/
theorem isOpen_behind {f : Nat → Nat} {descents : Nat} {procedures rest : List Procedure}
    (h : List.Forall₂ (Procedure.Mirrored K f) procedures rest) (i : Nat) :
    ((front ++ rest)[i + front.length]?.any fun q => q.body.isNone && q.descents = descents) =
      procedures[i]?.any fun q => q.body.isNone && q.descents = descents := by
  rw [List.getElem?_append_right (Nat.le_add_left ..), Nat.add_sub_cancel]
  induction h generalizing i with
  | nil => rfl
  | cons hq _ ih =>
    cases i with
    | zero =>
      simp only [List.getElem?_cons_zero, Option.any_some]
      rw [hq.body, hq.descents, Option.isNone_map]
    | succ i => exact ih i

theorem modify_append {α : Type} (front rest : List α) (i : Nat) (f : α → α) :
    (front ++ rest).modify (i + front.length) f = front ++ rest.modify i f := by
  induction front with
  | nil => rfl
  | cons q front ih =>
    show (q :: (front ++ rest)).modify (i + front.length + 1) f = q :: (front ++ rest.modify i f)
    rw [List.modify_succ_cons, ih]

/-- Entries are filled with mirrored bodies at the same place. -/
theorem fill_mirrored {f : Nat → Nat} {body : Node} {procedures rest : List Procedure}
    (h : List.Forall₂ (Procedure.Mirrored K f) procedures rest) (i : Nat) :
    List.Forall₂ (Procedure.Mirrored K f) (procedures.modify i (·.fill body))
      (rest.modify i (·.fill (body.renumber f))) := by
  induction h generalizing i with
  | nil =>
    rw [List.modify_nil, List.modify_nil]
    exact .nil
  | cons hq hrest ih =>
    cases i with
    | zero => exact .cons ⟨hq.key, hq.descents, rfl⟩ hrest
    | succ i =>
      rw [List.modify_succ_cons, List.modify_succ_cons]
      exact .cons hq (ih i)

/-- Behind none, entries have the same bodies. -/
theorem bodies_behind_nil {procedures rest : List Procedure}
    (h : List.Forall₂ (Procedure.Mirrored K (· + ([] : List Procedure).length)) procedures rest) :
    rest.map Procedure.body = procedures.map Procedure.body := by
  have hid : Node.renumber (· + ([] : List Procedure).length) = id := funext Node.renumber_id
  induction h with
  | nil => rfl
  | @cons q q' _ _ hq _ ih =>
    have hbody : q'.body = q.body := by rw [hq.body, hid, Option.map_id_fun, id]
    rw [List.map_cons, List.map_cons, hbody, ih]

/-- **References keep two compilations in lockstep**: both find the entry of their target, open or
    filled, or both open one. -/
theorem KeywordPlace.procedureOf_mirrors {p : KeywordPlace} {documents : Documents} {base' : Uri}
    {reference : String} (hK : ∀ {a b a' b'}, K a a' → K b b' → (a = b ↔ a' = b'))
    (h : Target.Mirrored front K errors same lower lower' p.position.descents
      (p.env.documents.resolve p.position.base reference) (documents.resolve base' reference)) :
    Mirrors (.behind front K errors same) (· + front.length) (p.procedureOf lower reference)
      ((p.moved documents base').procedureOf lower' reference) := by
  rintro procedures _ ⟨rest, rfl, hrest⟩
  rw [procedureOf_eq, procedureOf_eq]
  show LowerM.Mirrored _ _ _ (match documents.resolve base' reference with | .error e => _ | .ok target => _)
  revert h
  generalize p.env.documents.resolve p.position.base reference = found
  generalize documents.resolve base' reference = found'
  intro h
  cases h with
  | missing he => exact .refused he
  | @found target target' hkey hfront hlower =>
    dsimp only
    rw [findIdx?_behind hK hkey hfront hrest]
    cases hfound : procedures.findIdx? (·.target.key = target.key) with
    | some i =>
      have hopen : ((front ++ rest)[i + front.length]?.any fun q =>
          q.body.isNone && q.descents = p.position.descents) = _ := isOpen_behind hrest i
      dsimp only [Option.map_some]
      show LowerM.Mirrored _ _ _ (if ((front ++ rest)[i + front.length]?.any fun q =>
          q.body.isNone && q.descents = p.position.descents) then _ else _)
      rw [hopen]
      split
      · exact .refused (same _)
      · exact .done rfl ⟨rest, rfl, hrest⟩
    | none =>
      have hpushed : Procedure.Mirrored K (· + front.length) ⟨target, p.position.descents, none⟩
          ⟨target', p.position.descents, none⟩ := ⟨hkey, rfl, rfl⟩
      have hbehind := List.rel_append hrest (.cons hpushed .nil)
      have hopened := hlower (procedures ++ [⟨target, p.position.descents, none⟩])
        (front ++ rest ++ [⟨target', p.position.descents, none⟩]) ⟨_, List.append_assoc .., hbehind⟩
      have hnumber : (front ++ rest).length = procedures.length + front.length := by
        rw [List.length_append, hrest.length_eq, Nat.add_comm]
      show LowerM.Mirrored _ _ _ ((lower' target'.schema (.ofTarget target' p.position.descents)
        (front ++ rest ++ [⟨target', p.position.descents, none⟩])).map fun r =>
          ((front ++ rest).length, r.2.modify (front ++ rest).length (·.fill r.1)))
      revert hopened
      generalize lower target.schema _ _ = made
      generalize lower' target'.schema _ _ = made'
      rintro (he | ⟨rfl, rest', rfl, hrest'⟩)
      · exact .refused he
      · rw [hnumber]
        refine .done rfl ⟨_, modify_append .., ?_⟩
        exact fill_mirrored hrest' _

end

end JsonSchema
