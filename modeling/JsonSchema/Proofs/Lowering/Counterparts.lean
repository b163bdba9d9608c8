import JsonSchema.Proofs.Evaluation.CallBudget
import JsonSchema.Proofs.Lowering.Following

/-!
# One schema, lowered as a root and behind a reference

A schema can be the root of a program, or stand behind the reference that is the root.  In the second case
it is itself a procedure while it is being lowered, so what refers back to it finds it there, and its
procedures are opened at other times and have other numbers.

If the references lead alike, each way succeeds if the other does, but for refusals that are about the way
(`lowers_as_root`, `lowers_behind_reference`), and then the procedures of the one are among those of the
other (`lowered_standsBehind`).

Main statement: `lowerings_agree`, which puts these together.
-/

set_option autoImplicit false

namespace JsonSchema

open LowerM

/-- Both are refused, or both succeed with answers that are related.  One of them alone may be refused for
    what is about the way and not about the schema. -/
inductive AgreeUpToContext {α β : Type} (R : α → β → Prop) :
    Except SchemaError α → Except SchemaError β → Prop where
  | refused (e e' : SchemaError) : AgreeUpToContext R (.error e) (.error e')
  | done {a : α} {b : β} : R a b → AgreeUpToContext R (.ok a) (.ok b)
  | left {e : SchemaError} {b : β} : e.Contextual → AgreeUpToContext R (.error e) (.ok b)
  | right {a : α} {e : SchemaError} : e.Contextual → AgreeUpToContext R (.ok a) (.error e)

section

variable {α β γ δ : Type} {R : α → β → Prop} {x : Except SchemaError α} {y : Except SchemaError β}

theorem AgreeUpToContext.map {S : γ → δ → Prop} {f : α → γ} {g : β → δ} (h : AgreeUpToContext R x y)
    (hRS : ∀ a b, x = .ok a → y = .ok b → R a b → S (f a) (g b)) :
    AgreeUpToContext S (x.map f) (y.map g) := by
  cases h with
  | refused e e' => exact .refused e e'
  | done hab => exact .done (hRS _ _ rfl rfl hab)
  | left he => exact .left he
  | right he => exact .right he

theorem AgreeUpToContext.map_right {S : α → δ → Prop} (h : AgreeUpToContext R x y) (g : β → δ)
    (hRS : ∀ a b, R a b → S a (g b)) : AgreeUpToContext S x (y.map g) := by
  cases h with
  | refused e e' => exact .refused e e'
  | done hab => exact .done (hRS _ _ hab)
  | left he => exact .left he
  | right he => exact .right he

/-- Where both succeed, the answers are related. -/
theorem AgreeUpToContext.related (h : AgreeUpToContext R x y) (hx : x.toOption.isSome)
    (hy : y.toOption.isSome) : ∃ a b, x = .ok a ∧ y = .ok b ∧ R a b := by
  cases h with
  | done hab => exact ⟨_, _, rfl, rfl, hab⟩
  | refused e e' => cases hx
  | left he => cases hx
  | right he => cases hy

end

/-! ## Procedures that can be lowered again -/

/-- Each procedure has a body, and lowering its target among them all gives that body. -/
def Reproduces (env : Environment) (finished : List Procedure) : Prop :=
  ∀ q ∈ finished, ∃ body, q.body = some body ∧ ∃ budget, ∀ budget' ≥ budget, ∀ descents,
    lowerSchema env budget' q.target.schema (.ofTarget q.target descents) finished = .ok (body, finished)

theorem Reproduces.finished {env : Environment} {finished : List Procedure} (h : Reproduces env finished) :
    Finished finished := by
  intro q hq
  obtain ⟨body, hbody, -⟩ := h q hq
  rw [hbody]
  rfl

/-- Where keys differ, a key leads to its procedure. -/
theorem findIdx?_of_distinct {procedures : List Procedure}
    (hdistinct : ((procedures.map Procedure.target).map Target.key).Nodup) {i : Nat} {q : Procedure}
    (hq : procedures[i]? = some q) :
    procedures.findIdx? (·.target.key = q.target.key) = some i := by
  obtain ⟨hi, rfl⟩ := List.getElem?_eq_some_iff.mp hq
  refine List.findIdx?_eq_some_iff_getElem.mpr ⟨hi, by simp, fun j hj hkey => ?_⟩
  rw [List.map_map] at hdistinct
  have hlength : (procedures.map (Target.key ∘ Procedure.target)).length = procedures.length :=
    List.length_map _
  have hsame : (procedures.map (Target.key ∘ Procedure.target))[j] =
      (procedures.map (Target.key ∘ Procedure.target))[i] := by simpa using hkey
  have heq := hdistinct.getElem_inj_iff.mp hsame
  omega

section

variable {env : Environment} {budget : Nat} {s : Json} {position : Position} {root : Node}
  {procedures after finished : List Procedure}

/-- What was lowered can be lowered again among its own procedures, when they are finished. -/
theorem lowered_again_itself
    (hlower : lowerSchema env budget s position procedures = .ok (root, after))
    (hopen : ∀ q ∈ procedures, q.body = none) (hfinished : Finished finished)
    (htargets : finished.map Procedure.target = after.map Procedure.target)
    (hdistinct : ((after.map Procedure.target).map Target.key).Nodup) :
    (∀ budget' ≥ budget, ∀ descents,
      lowerSchema env budget' s (position.moved position.base descents) finished = .ok (root, finished)) ∧
      ∀ q ∈ after, ∀ body, q.body = some body → ∃ budget, ∀ budget' ≥ budget, ∀ descents,
        lowerSchema env budget' q.target.schema (.ofTarget q.target descents) finished =
          .ok (body, finished) := by
  have hkeyed : Keyed env env.documents (fun _ base base' => base' = base) finished id after := by
    intro i q hq target target' hreached hkey
    obtain ⟨q', hq', htarget⟩ : ∃ q', finished[i]? = some q' ∧ q'.target = q.target := by
      have hmapped := congrArg (·[i]?) htargets
      simpa [hq] using hmapped
    rw [hreached.eq_self, hkey, ← htarget]
    exact findIdx?_of_distinct (htargets ▸ hdistinct) hq'
  obtain ⟨hroot, hsettled⟩ :=
    lowerSchema_again (Environment.parallel_self env) hfinished rfl hlower hopen hkeyed
  refine ⟨fun budget' hbudget descents => ?_, fun q hq body hbody => ?_⟩
  · have hagain := hroot budget' hbudget descents
    rwa [Node.renumber_id] at hagain
  · obtain ⟨budget, hagain⟩ := hsettled q hq body hbody q.target ⟨rfl, rfl, rfl⟩
    refine ⟨budget, fun budget' hbudget descents => ?_⟩
    have hagain := hagain budget' hbudget descents
    rwa [Node.renumber_id] at hagain

/-- Lowering a root leaves procedures that can be lowered again, and so can the root. -/
theorem reproduces_root (hlower : lowerSchema env budget s position [] = .ok (root, after))
    (hdistinct : ((after.map Procedure.target).map Target.key).Nodup) :
    Reproduces env after ∧ ∀ budget' ≥ budget, ∀ descents,
      lowerSchema env budget' s (position.moved position.base descents) after = .ok (root, after) := by
  have hfinished : Finished after := by
    intro q hq
    obtain ⟨i, hi⟩ := List.mem_iff_getElem?.mp hq
    exact (lowerSchema_keeps hlower).2 i q (Nat.zero_le i) hi
  obtain ⟨hroot, hagain⟩ := lowered_again_itself hlower (fun q hq => absurd hq List.not_mem_nil) hfinished rfl
    hdistinct
  refine ⟨fun q hq => ?_, hroot⟩
  obtain ⟨body, hbody⟩ := Option.isSome_iff_exists.mp (hfinished q hq)
  exact ⟨body, hbody, hagain q hq body hbody⟩

/-- So does lowering the target of the first reference. -/
theorem reproduces_target {start : Target}
    (hlower : lowerSchema env budget start.schema (.ofTarget start 0) [⟨start, 0, none⟩] =
      .ok (root, after))
    (hdistinct : ((after.map Procedure.target).map Target.key).Nodup) :
    Reproduces env (after.modify 0 (·.fill root)) ∧ ∀ budget' ≥ budget, ∀ descents,
      lowerSchema env budget' start.schema (.ofTarget start descents) (after.modify 0 (·.fill root)) =
        .ok (root, after.modify 0 (·.fill root)) := by
  obtain ⟨hle, hfilled⟩ := lowerSchema_keeps hlower
  have hstart : after[0]? = some ⟨start, 0, none⟩ := getElem?_of_prefix hle rfl
  have hbodies : ∀ (i : Nat) (q : Procedure), (after.modify 0 (·.fill root))[i]? = some q →
      (i = 0 ∧ q = Procedure.fill ⟨start, 0, none⟩ root) ∨ (after[i]? = some q ∧ q.body.isSome) := by
    intro i q hq
    rw [getElem?_fill] at hq
    obtain ⟨r, hr, rfl⟩ := Option.map_eq_some_iff.mp hq
    cases i with
    | zero =>
      obtain rfl := Option.some.inj (hr.symm.trans hstart)
      exact .inl ⟨rfl, rfl⟩
    | succ i => exact .inr ⟨hr, hfilled (i + 1) r (Nat.le_add_left _ _) hr⟩
  have hfinished : Finished (after.modify 0 (·.fill root)) := by
    intro q hq
    obtain ⟨i, hi⟩ := List.mem_iff_getElem?.mp hq
    rcases hbodies i q hi with ⟨-, rfl⟩ | ⟨-, hbody⟩
    · rfl
    · exact hbody
  obtain ⟨hroot, hagain⟩ := lowered_again_itself hlower (List.forall_mem_singleton.mpr rfl) hfinished
    (map_target_fill _ _ _) hdistinct
  refine ⟨fun q hq => ?_, hroot⟩
  obtain ⟨i, hi⟩ := List.mem_iff_getElem?.mp hq
  rcases hbodies i q hi with ⟨-, rfl⟩ | ⟨hq, hbody⟩
  · exact ⟨root, rfl, budget, hroot⟩
  · obtain ⟨body, hbody⟩ := Option.isSome_iff_exists.mp hbody
    exact ⟨body, hbody, hagain q (List.mem_of_getElem? hq) body hbody⟩

end

/-! ## Both ways -/

section

variable {env : Environment} {documents : Documents} {W : Correspondence} {root start : Target}
  {budget budget' : Nat} {n n' : Node} {procedures after : List Procedure}

/-- Targets that a reference leads to match. -/
theorem Environment.Reaches.matches (h : env.Parallel documents W) {target target' : Target}
    (hreached : env.Reaches documents W target target') : target.Matches W target' := by
  obtain ⟨members, inner, inner', rule, henters, hreads, hrule, htarget, htarget'⟩ := hreached
  have hreferred := h.referred members inner inner' rule henters hreads hrule
  rw [htarget, htarget'] at hreferred
  obtain _ | hmatches := hreferred
  exact hmatches

/-- Procedures that can be lowered again are ready, if their targets are told apart by keys. -/
theorem Reproduces.ready {finished : List Procedure} (h : Reproduces (env.among documents) finished)
    (hkeys : ∀ q ∈ finished, ∀ target target', env.Reaches documents W target target' →
      q.target.key = target'.key → q.target = target') : Ready env documents W finished := by
  intro target target' hreached ⟨q, hq, hkey⟩
  obtain ⟨body, -, budget, hagain⟩ := h q hq
  rw [← hkeys q hq target target' hreached hkey]
  exact ⟨budget, body, hagain budget (Nat.le_refl _) 0⟩

/-- The targets of a root's procedures are reached. -/
theorem targets_root (h : env.Parallel documents W) (hroot : root.Matches W start)
    (hlower : lowerSchema env budget root.schema (.ofTarget root 0) [] = .ok (n, procedures)) :
    TargetsAre (fun target => ∃ target', env.Reaches documents W target target') procedures :=
  (h.lowerSchema_targets (fun _ target' hreached => ⟨target', hreached⟩) budget root.schema
    (.ofTarget root 0) start.base hroot.base _ _ _ .nil hlower).1

/-- Those behind a reference are reached, or the target of that reference. -/
theorem targets_behind (h : env.Parallel documents W) (hroot : root.Matches W start)
    (hlower : lowerSchema (env.among documents) budget' start.schema (.ofTarget start 0)
      [⟨start, 0, none⟩] = .ok (n', after)) :
    TargetsAre (fun target' => target' = start ∨ ∃ target, env.Reaches documents W target target') after := by
  have hstart : TargetsAre (fun target' => target' = start ∨ ∃ target, env.Reaches documents W target target')
      [⟨start, 0, none⟩] := ⟨List.nodup_singleton _, List.forall_mem_singleton.mpr (.inl rfl)⟩
  refine (h.swap.lowerSchema_targets (fun target' target hreached => ?_) budget' start.schema
    (.ofTarget start 0) root.base ?_ _ _ _ hstart hlower).1
  · exact .inr ⟨target, hreached.swap⟩
  · exact hroot.schema ▸ hroot.base

theorem keys_behind (hkeys : env.KeysTell documents W start) {finished : List Procedure}
    (htargets : TargetsAre (fun target' => target' = start ∨ ∃ target, env.Reaches documents W target target')
      finished) :
    ∀ q ∈ finished, ∀ target target', env.Reaches documents W target target' →
      q.target.key = target'.key → q.target = target' := by
  intro q hq target target' hreached hkey
  rcases htargets.2 q.target (List.mem_map_of_mem hq) with hstart | ⟨target₁, hreached₁⟩
  · rw [hstart] at hkey ⊢
    exact (hkeys.start hreached hkey.symm).symm
  · exact hkeys.right hreached₁ hreached hkey

/-- **A root succeeds if its schema does behind a reference**, but for refusals that are about the way; its
    procedures have counterparts there. -/
theorem lowers_as_root (h : env.Parallel documents W) (hkeys : env.KeysTell documents W start)
    (hroot : root.Matches W start)
    (hlower : lowerSchema (env.among documents) budget' start.schema (.ofTarget start 0)
      [⟨start, 0, none⟩] = .ok (n', after)) :
    (∃ e, lowerSchema env budget root.schema (.ofTarget root 0) [] = .error e ∧ e.Contextual) ∨
      ∃ n procedures, lowerSchema env budget root.schema (.ofTarget root 0) [] = .ok (n, procedures) ∧
        ∀ target ∈ procedures.map Procedure.target, ∃ target', env.Reaches documents W target target' ∧
          ∃ q ∈ after.modify 0 (·.fill n'), q.target.key = target'.key := by
  have htargets := targets_behind h hroot hlower
  obtain ⟨hreproduces, hagain⟩ := reproduces_target hlower htargets.1
  have hready := hreproduces.ready (keys_behind hkeys (htargets.fill 0 n'))
  have hagain := hagain budget' (Nat.le_refl _) 0
  rw [← hroot.lowerSchema_eq _ _ 0] at hagain
  exact lowerSchema_follows h hready (fun target target' hreached hfound => ⟨target', hreached, hfound⟩)
    hroot.base hagain fun _ ht => absurd ht List.not_mem_nil

/-- **A schema succeeds behind a reference if it does as a root**, but for refusals that are about the way. -/
theorem lowers_behind_reference (h : env.Parallel documents W) (hkeys : env.KeysTell documents W start)
    (hroot : root.Matches W start)
    (hlower : lowerSchema env budget root.schema (.ofTarget root 0) [] = .ok (n, procedures)) :
    (∃ e, lowerSchema (env.among documents) budget' start.schema (.ofTarget start 0) [⟨start, 0, none⟩] =
      .error e ∧ e.Contextual) ∨
      ∃ n' after, lowerSchema (env.among documents) budget' start.schema (.ofTarget start 0)
        [⟨start, 0, none⟩] = .ok (n', after) := by
  have htargets := targets_root h hroot hlower
  obtain ⟨hreproduces, hagain⟩ := reproduces_root hlower htargets.1
  have hready : Ready (env.among documents) env.documents (fun s base base' => W s base' base) procedures := by
    refine @Reproduces.ready (env.among documents) env.documents _ procedures hreproduces ?_
    intro q hq target' target hreached hkey
    obtain ⟨target₁', hreached₁⟩ := htargets.2 q.target (List.mem_map_of_mem hq)
    exact hkeys.left hreached₁ hreached.swap hkey
  have hswapped : start.Matches (fun s base base' => W s base' base) root :=
    ⟨hroot.schema.symm, hroot.fragment.symm, hroot.schema ▸ hroot.base⟩
  have hagain : lowerSchema ((env.among documents).among env.documents) budget start.schema
      ((Position.ofTarget start 0).moved root.base 0) procedures = .ok (n, procedures) := by
    rw [hswapped.lowerSchema_eq]
    exact hagain budget (Nat.le_refl _) 0
  rcases lowerSchema_follows (F := fun _ => True) h.swap hready (fun _ _ _ _ => trivial) hswapped.base hagain
    (fun _ _ => trivial) with herror | ⟨n', after, hok, -⟩
  · exact .inl herror
  · exact .inr ⟨n', after, hok⟩

/-- What is lowered when a schema has been lowered as the target of a reference. -/
def behindReference (lowered : Node × List Procedure) : Node × List Procedure :=
  (.call 0, lowered.2.modify 0 (·.fill lowered.1))

/-- Each procedure has the number of a finished one whose target its own target corresponds to. -/
def Numbering (env : Environment) (documents : Documents) (W : Correspondence)
    (finished procedures : List Procedure) (g : Nat → Nat) : Prop :=
  ∀ (i : Nat) (q : Procedure), procedures[i]? = some q → ∃ target',
    env.Reaches documents W q.target target' ∧ finished.findIdx? (·.target.key = target'.key) = some (g i)

theorem exists_numbering {finished : List Procedure}
    (h : ∀ target ∈ procedures.map Procedure.target, ∃ target', env.Reaches documents W target target' ∧
      ∃ q ∈ finished, q.target.key = target'.key) : ∃ g, Numbering env documents W finished procedures g := by
  have hnumber : ∀ i : Nat, ∃ j : Nat, ∀ q : Procedure, procedures[i]? = some q → ∃ target',
      env.Reaches documents W q.target target' ∧
        finished.findIdx? (·.target.key = target'.key) = some j := by
    intro i
    cases hi : procedures[i]? with
    | none => exact ⟨0, fun q hq => nomatch hq⟩
    | some q =>
      obtain ⟨target', hreached, q', hq', hkey⟩ := h q.target (List.mem_map_of_mem (List.mem_of_getElem? hi))
      cases hfind : finished.findIdx? (·.target.key = target'.key) with
      | none => exact absurd (List.findIdx?_eq_none_iff.mp hfind q' hq') (by simpa using hkey)
      | some j =>
        refine ⟨j, fun _ hq => ?_⟩
        obtain rfl := Option.some.inj hq
        exact ⟨target', hreached, hfind⟩
  choose g hg using hnumber
  exact ⟨g, hg⟩

theorem Numbering.keyed {finished : List Procedure} {g : Nat → Nat}
    (h : Numbering env documents W finished procedures g) (hkeys : env.KeysTell documents W start) :
    Keyed env documents W finished g procedures := by
  intro i q hq target target' hreached hkey
  obtain ⟨target₁', hreached₁, hfind⟩ := h i q hq
  rw [hkeys.across hreached hreached₁ hkey]
  exact hfind

/-- The finished procedure of a number has the body of the procedure, with its calls numbered so. -/
theorem Numbering.body {finished : List Procedure} {g : Nat → Nat} {q : Procedure} {body : Node}
    (h : Numbering env documents W finished procedures g) (hparallel : env.Parallel documents W)
    (hfound : ∀ q ∈ finished, ∀ target target', env.Reaches documents W target target' →
      q.target.key = target'.key → q.target = target')
    (hreproduces : Reproduces (env.among documents) finished)
    (hsettled : q.Settled env documents W finished g) {i : Nat} (hq : procedures[i]? = some q)
    (hbody : q.body = some body) : ∃ q', finished[g i]? = some q' ∧ q'.body = some (body.renumber g) := by
  obtain ⟨target', hreached, hfind⟩ := h i q hq
  obtain ⟨hlt, hkey, -⟩ := List.findIdx?_eq_some_iff_getElem.mp hfind
  have hmem := List.getElem_mem hlt
  have htarget := hfound _ hmem _ _ hreached (by simpa using hkey)
  obtain ⟨body', hbody', budget₁, hagain₁⟩ := hreproduces _ hmem
  obtain ⟨budget₂, hagain₂⟩ := hsettled body hbody target' (hreached.matches hparallel)
  -- both are what the target is lowered to among the finished procedures
  have hsame := hagain₂ (max budget₁ budget₂) (Nat.le_max_right _ _) 0
  rw [← htarget, hagain₁ _ (Nat.le_max_left _ _)] at hsame
  have hbodies : body' = body.renumber g := (Prod.mk.inj (Except.ok.inj hsame)).1
  exact ⟨_, List.getElem?_eq_getElem hlt, hbodies ▸ hbody'⟩

/-- **The procedures of the root are among those behind the reference**, under other numbers, and what is
    behind the reference is the root. -/
theorem lowered_standsBehind (h : env.Parallel documents W) (hkeys : env.KeysTell documents W start)
    (hroot : root.Matches W start)
    (hlower : lowerSchema env budget root.schema (.ofTarget root 0) [] = .ok (n, procedures))
    (hlower' : lowerSchema (env.among documents) budget' start.schema (.ofTarget start 0)
      [⟨start, 0, none⟩] = .ok (n', after)) :
    (Program.ofLowered (n, procedures)).StandsBehind (.ofLowered (behindReference (n', after))) := by
  have htargets := targets_behind h hroot hlower'
  obtain ⟨hreproduces, hagain⟩ := reproduces_target hlower' htargets.1
  have hcounterparts : ∀ target ∈ procedures.map Procedure.target, ∃ target',
      env.Reaches documents W target target' ∧ ∃ q ∈ after.modify 0 (·.fill n'), q.target.key = target'.key := by
    have hsucceeds := @lowers_as_root _ _ _ _ _ budget _ _ _ h hkeys hroot hlower'
    rw [hlower] at hsucceeds
    rcases hsucceeds with ⟨e, he, -⟩ | ⟨_, _, hok, hcounterparts⟩
    · cases he
    · obtain ⟨rfl, rfl⟩ := Prod.mk.inj (Except.ok.inj hok)
      exact hcounterparts
  obtain ⟨g, hg⟩ := exists_numbering hcounterparts
  obtain ⟨hroot_again, hsettled⟩ := lowerSchema_again h hreproduces.finished hroot.base hlower
    (fun q hq => absurd hq List.not_mem_nil) (hg.keyed hkeys)
  refine ⟨rfl, g, fun i body hi => ?_, ?_⟩
  · obtain ⟨q, hq, rfl⟩ : ∃ q, procedures[i]? = some q ∧ q.body.getD .pass = body := by
      simpa [Program.ofLowered] using hi
    obtain ⟨b, hb⟩ := Option.isSome_iff_exists.mp ((lowerSchema_keeps hlower).2 i q (Nat.zero_le i) hq)
    obtain ⟨q', hq', hb'⟩ := hg.body h (keys_behind hkeys (htargets.fill 0 n')) hreproduces
      (hsettled q (List.mem_of_getElem? hq)) hq hb
    simp only [Program.ofLowered, behindReference, List.getElem?_map, hq', Option.map_some, hb, hb']
    rfl
  · have hstart := hroot_again (max budget budget') (Nat.le_max_left _ _) 0
    rw [hroot.lowerSchema_eq, hagain _ (Nat.le_max_right _ _)] at hstart
    obtain rfl : n' = n.renumber g := (Prod.mk.inj (Except.ok.inj hstart)).1
    have hfirst : after[0]? = some ⟨start, 0, none⟩ := getElem?_of_prefix (lowerSchema_keeps hlower').1 rfl
    simp only [Program.ofLowered, behindReference, List.getElem?_map, getElem?_fill, hfirst, Option.map_some]
    rfl

/-- **Lowered as a root and behind a reference, a schema comes to the same**, but for refusals that are about
    the way. -/
theorem lowerings_agree (h : env.Parallel documents W) (hkeys : env.KeysTell documents W start)
    (hroot : root.Matches W start) (budget budget' : Nat) :
    AgreeUpToContext
      (fun lowered lowered' => (Program.ofLowered lowered).StandsBehind (.ofLowered (behindReference lowered')))
      (lowerSchema env budget root.schema (.ofTarget root 0) [])
      (lowerSchema (env.among documents) budget' start.schema (.ofTarget start 0) [⟨start, 0, none⟩]) := by
  cases hlower : lowerSchema env budget root.schema (.ofTarget root 0) [] with
  | error e =>
    cases hlower' : lowerSchema (env.among documents) budget' start.schema (.ofTarget start 0)
        [⟨start, 0, none⟩] with
    | error e' => exact .refused e e'
    | ok lowered' =>
      have hsucceeds := @lowers_as_root _ _ _ _ _ budget _ _ _ h hkeys hroot hlower'
      rw [hlower] at hsucceeds
      rcases hsucceeds with ⟨_, he, hcontextual⟩ | ⟨_, _, hok, -⟩
      · exact .left (Except.error.inj he ▸ hcontextual)
      · cases hok
  | ok lowered =>
    have hsucceeds := @lowers_behind_reference _ _ _ _ _ _ budget' _ _ h hkeys hroot hlower
    rcases hsucceeds with ⟨e, he, hcontextual⟩ | ⟨n', after, hlower'⟩
    · rw [he]
      exact .right hcontextual
    · rw [hlower']
      exact .done (lowered_standsBehind h hkeys hroot hlower hlower')

end

end JsonSchema
