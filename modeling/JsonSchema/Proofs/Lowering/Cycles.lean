import JsonSchema.Proofs.Evaluation.Termination
import JsonSchema.Proofs.Lowering.Schemas
import Mathlib.Data.Finset.Lattice.Fold

/-!
# Cycles that the loop check lets through

`KeywordPlace.procedureOf` refuses a reference to a procedure that is still open and was opened as deep
in the data as the reference stands.  **The check does not keep programs from being cyclic**: a
procedure that was opened deeper is let through wherever it is used, and once it is filled nothing looks
at it again.

This file finds out what the check does achieve.  Its invariant (`Ordered`) is that the calls made
without entering the data, between procedures opened *at one depth*, follow a rank: filling an entry
puts it above everything filled before.  A cycle must therefore leave its depth, and as it comes back to
where it began it must somewhere call a procedure that was opened deeper than the caller.  That is the
whole story (`compiled_ends_iff_no_late_cycle`): a compiled program is free of cycles, and ends on every
value, unless such a late use of a deeper procedure closes a cycle.
-/

set_option autoImplicit false

namespace JsonSchema

/-! ## What the check says of one body -/

/-- The calls of a body that was lowered at a depth of the data: each has an entry, and one made without
    entering the data is filled unless it was opened at another depth. -/
def Node.Checked (procedures : List Procedure) (depth : Nat) (n : Node) : Prop :=
  ∀ entered i, n.Reaches entered i → ∃ q, procedures[i]? = some q ∧
    (entered = false → q.descents = depth → q.body.isSome)

namespace Node.Checked

variable {procedures : List Procedure} {depth : Nat} {n : Node}

/-- A body that is entered may have been lowered at any depth. -/
theorem of_parts (hcall : ∀ i, n ≠ .call i)
    (h : ∀ part ∈ n.parts, ∃ d, (part.1 = false → d = depth) ∧ part.2.Checked procedures d) :
    n.Checked procedures depth := by
  intro entered i hr
  cases hr with
  | call => exact absurd rfl (hcall i)
  | part hp hr =>
    obtain ⟨d, hd, hb⟩ := h _ hp
    obtain ⟨q, hq, hfilled⟩ := hb _ _ hr
    refine ⟨q, hq, fun hf hdepth => ?_⟩
    obtain ⟨he, hbelow⟩ := Bool.or_eq_false_iff.mp hf
    exact hfilled hbelow (hdepth.trans (hd he).symm)

theorem leaf (hcall : ∀ i, n ≠ .call i) (h : n.parts = []) : n.Checked procedures depth :=
  .of_parts hcall (by simp [h])

theorem here (hcall : ∀ i, n ≠ .call i)
    (h : ∀ part ∈ n.parts, part.2.Checked procedures depth) : n.Checked procedures depth :=
  .of_parts hcall fun part hp => ⟨depth, fun _ => rfl, h part hp⟩

theorem check (c : Check) : (Node.check c).Checked procedures depth := .leaf (by simp) rfl

theorem inside {body : Node} {d : Nat} (hcall : ∀ i, n ≠ .call i) (hn : n.parts = [(true, body)])
    (h : body.Checked procedures d) : n.Checked procedures depth :=
  .of_parts hcall fun part hp => by
    obtain rfl : part = (true, body) := by simpa [hn] using hp
    exact ⟨d, fun hf => (nomatch hf), h⟩

theorem conj {nodes : List Node} (h : ∀ n ∈ nodes, n.Checked procedures depth) :
    (Node.conj nodes).Checked procedures depth :=
  Node.conj_cases (.leaf (by simp) rfl) (fun nodes h => .here (by simp) (by simpa [parts] using h)) h

end Node.Checked

/-! ## Everything that lowering makes is checked -/

/-- The check as what is known of the body of a schema at a position. -/
def checkedAt (procedures : List Procedure) : BodyRel :=
  fun _ position n => n.Checked procedures position.descents

namespace KeywordPlace

variable {procedures : List Procedure} {p : KeywordPlace} {nodes : List Node}

theorem elementsPart_checked (keyword : String) (start : Nat) (schema : Json) :
    ∀ body, (p.elementsPart (checkedAt procedures) keyword start schema).Made body →
      (Node.items start body).Checked procedures p.position.descents :=
  fun _ hb => .inside (by simp) rfl hb

theorem tupleParts_checked (start : Nat) (tuple : List Json) :
    ∀ part ∈ p.tupleParts (checkedAt procedures) start tuple, ∀ body, part.Made body →
      (part.around body).Checked procedures p.position.descents := by
  intro part hpart body hb
  obtain ⟨⟨schema, i⟩, -, rfl⟩ := List.mem_map.mp hpart
  exact .inside (by simp) rfl hb

theorem additionalItemsParts_checked (start : Nat) :
    ∀ part ∈ p.additionalItemsParts (checkedAt procedures) start, ∀ body, part.Made body →
      (part.around body).Checked procedures p.position.descents := by
  unfold additionalItemsParts
  split
  · exact List.forall_mem_singleton.mpr (elementsPart_checked _ _ _)
  · exact fun _ h => absurd h List.not_mem_nil

theorem MakesItems.checked (h : p.MakesItems (checkedAt procedures) nodes) :
    ∀ n ∈ nodes, n.Checked procedures p.position.descents := by
  obtain ⟨-, h⟩ := h
  split at h
  · simp [h]
  · next tuple _ =>
    obtain ⟨others, hothers, rfl⟩ := h
    refine List.forall_mem_append.mpr ⟨?_, hothers.forall_mem (List.forall_mem_append.mpr
      ⟨tupleParts_checked 0 tuple, additionalItemsParts_checked tuple.length⟩)⟩
    split
    · exact List.forall_mem_singleton.mpr (.leaf (by simp [noAdditionalItems, dataCheck]) rfl)
    · exact fun _ h => absurd h List.not_mem_nil
  · exact h.forall_mem (List.forall_mem_singleton.mpr (elementsPart_checked _ _ _))

theorem MakesDependencies.checked (h : p.MakesDependencies (checkedAt procedures) nodes) :
    ∀ n ∈ nodes, n.Checked procedures p.position.descents := by
  refine Assembled.forall_mem h fun part hpart body hb => ?_
  obtain ⟨⟨property, needs⟩, -, rfl⟩ := List.mem_map.mp hpart
  refine .here (by simp [dependencyPart]) (List.forall_mem_singleton.mpr ?_)
  cases needs with
  | arr names =>
    obtain ⟨checks, hchecks, rfl⟩ := hb
    obtain ⟨needed, text, -, rfl⟩ := neededProperties_cases hchecks
    exact .conj (forall_mem_dataChecks .check)
  | _ => exact hb

theorem MakesNameSchema.checked (h : p.MakesNameSchema (checkedAt procedures) nodes) :
    ∀ n ∈ nodes, n.Checked procedures p.position.descents := by
  obtain ⟨text, h⟩ := h
  exact h.forall_mem (List.forall_mem_singleton.mpr fun _ hb => .inside (by simp) rfl hb)

theorem MakesOthers.checked {patterns : List Regex}
    (h : p.MakesOthers (checkedAt procedures) patterns nodes) :
    ∀ n ∈ nodes, n.Checked procedures p.position.descents := by
  unfold MakesOthers at h
  split at h
  · simp [h]
  · simp [h]
  · obtain ⟨text, rfl⟩ := h
    exact List.forall_mem_singleton.mpr (.leaf (by simp) rfl)
  · exact h.forall_mem (List.forall_mem_singleton.mpr fun _ hb => .inside (by simp) rfl hb)

theorem MakesProperties.checked (h : p.MakesProperties (checkedAt procedures) nodes) :
    ∀ n ∈ nodes, n.Checked procedures p.position.descents := by
  obtain ⟨-, patterns, named, matched, others, -, hnamed, hmatched, hothers, rfl⟩ := h
  have hmembers : ∀ n ∈ named, n.Checked procedures p.position.descents :=
    hnamed.forall_mem fun part hpart body hb => by
      obtain ⟨m, -, rfl⟩ := List.mem_map.mp hpart
      exact .inside (by simp [namedPart]) rfl hb
  have hpatterns : ∀ n ∈ matched, n.Checked procedures p.position.descents :=
    hmatched.forall_mem fun part hpart body hb => by
      obtain ⟨m, -, rfl⟩ := List.mem_map.mp hpart
      exact .inside (by simp [patternPart]) rfl hb
  exact List.forall_mem_append.mpr ⟨List.forall_mem_append.mpr ⟨hmembers, hpatterns⟩, hothers.checked⟩

theorem MakesBranches.checked (h : p.MakesBranches (checkedAt procedures) nodes) :
    ∀ n ∈ nodes, n.Checked procedures p.position.descents := by
  obtain ⟨-, h⟩ := h
  exact forall_mem_of_forall₂ h.flip

theorem MakesBranch.checked {keyword : String} {n : Node}
    (h : p.MakesBranch (checkedAt procedures) keyword n) : n.Checked procedures p.position.descents := by
  unfold MakesBranch at h
  split at h
  · exact h
  · exact h ▸ .leaf (by simp) rfl

theorem MakesIfThenElse.checked (h : p.MakesIfThenElse (checkedAt procedures) nodes) :
    ∀ n ∈ nodes, n.Checked procedures p.position.descents := by
  unfold MakesIfThenElse at h
  split at h
  · simp [h]
  · simp [h]
  · obtain ⟨c, t, e, text, hc, ht, he, rfl⟩ := h
    refine List.forall_mem_singleton.mpr (.here (by simp) ?_)
    simpa [Node.parts] using ⟨hc, ht.checked, he.checked⟩

/-- A keyword passes the check on from its subschemas and its reference. -/
theorem Makes.checked {documents : Documents} {position : Position} {k : BuiltinKeyword}
    (hp : p.position = position)
    (h : p.Makes (checkedAt procedures) (Refers procedures documents position) k nodes) :
    ∀ n ∈ nodes, n.Checked procedures p.position.descents := by
  cases k with
  | multipleOf =>
    obtain ⟨n, hn, rfl⟩ := h
    obtain ⟨-, text, rfl⟩ := multipleOf_cases hn
    exact List.forall_mem_singleton.mpr (.check _)
  | pattern =>
    obtain ⟨n, hn, rfl⟩ := h
    rcases pattern_cases hn with ⟨-, text, rfl⟩ | ⟨-, r, text, -, rfl⟩
    · exact List.forall_mem_singleton.mpr (.check _)
    · exact List.forall_mem_singleton.mpr (.check _)
  | format =>
    rcases format_cases h with ⟨found, text, -, rfl⟩ | ⟨-, rfl⟩
    · exact List.forall_mem_singleton.mpr (.check _)
    · exact fun _ hn => absurd hn List.not_mem_nil
  | required =>
    obtain ⟨names, text, -, rfl⟩ := required_cases h
    exact forall_mem_dataChecks .check
  | items => exact MakesItems.checked h
  | dependencies => exact MakesDependencies.checked h
  | propertyNames => exact MakesNameSchema.checked h
  | properties => exact MakesProperties.checked h
  | allOf => exact MakesBranches.checked h
  | ifThenElse => exact MakesIfThenElse.checked h
  | contains =>
    obtain ⟨body, text, hb, rfl⟩ := h
    exact List.forall_mem_singleton.mpr (.inside (by simp) rfl hb)
  | not =>
    obtain ⟨body, text, hb, rfl⟩ := h
    exact List.forall_mem_singleton.mpr (.here (by simp) (List.forall_mem_singleton.mpr hb))
  | anyOf =>
    obtain ⟨branches, text, hb, rfl⟩ := h
    refine List.forall_mem_singleton.mpr (.here (by simp) ?_)
    simpa [Node.parts] using hb.checked
  | oneOf =>
    obtain ⟨branches, text, hb, rfl⟩ := h
    refine List.forall_mem_singleton.mpr (.here (by simp) ?_)
    simpa [Node.parts] using hb.checked
  | ref =>
    obtain ⟨i, ⟨target, q, -, hq, -, hfilled⟩, rfl⟩ := h
    refine List.forall_mem_singleton.mpr fun entered j hr => ?_
    cases hr with
    | call => exact ⟨q, hq, fun _ hd => hfilled (hp ▸ hd)⟩
    | part hp _ => exact absurd hp List.not_mem_nil
  -- the keywords that contribute one check, whatever stands beside them
  | _ =>
    obtain rfl := h
    exact List.forall_mem_singleton.mpr (.check _)

theorem MakesCustom.checked {d : KeywordDefinition} (h : p.MakesCustom (checkedAt procedures) d nodes) :
    ∀ n ∈ nodes, n.Checked procedures p.position.descents := by
  intro n hn
  rcases h n hn with ⟨text, fails, rfl⟩ | ⟨text, rfl⟩ | ⟨expand, -, hb⟩
  · exact .check _
  · exact .leaf (by simp) rfl
  · exact hb

end KeywordPlace

variable {procedures : List Procedure} {documents : Documents} {env : Environment}
  {members : List (String × Json)} {position : Position} {n : Node}

theorem Rule.Makes.checked {rule : Rule}
    (h : rule.Makes (checkedAt procedures) (Refers procedures documents) env members position n) :
    n.Checked procedures position.descents := by
  obtain ⟨data, nodes, -, -, hmakes, rfl⟩ := h
  have hnodes : ∀ n ∈ nodes,
      n.Checked procedures (rule.place env members position data).position.descents := by
    split at hmakes
    · exact KeywordPlace.Makes.checked rfl hmakes
    · exact KeywordPlace.MakesCustom.checked hmakes
  exact .conj hnodes

theorem RuleGroup.Makes.checked {group : RuleGroup} {onlyRef : Bool}
    (h : group.Makes (checkedAt procedures) (Refers procedures documents) env members position onlyRef
      n) : n.Checked procedures position.descents := by
  obtain ⟨nodes, hmakes, rfl⟩ := h
  have hconj : (Node.conj nodes).Checked procedures position.descents :=
    .conj (forall_mem_of_forall₂ (hmakes.flip.imp fun _ _ h => Rule.Makes.checked h))
  unfold RuleGroup.around
  split
  · split
    · exact .leaf (by simp) rfl
    · exact .here (by simp) (List.forall_mem_singleton.mpr hconj)
  · exact hconj

theorem SchemaMakes.checked {schema : Json}
    (h : SchemaMakes (checkedAt procedures) (Refers procedures documents) env schema position n) :
    n.Checked procedures position.descents := by
  cases h with
  | always => exact .leaf (by simp) rfl
  | never => exact .leaf (by simp) rfl
  | object hbase hobject =>
    obtain ⟨declared, nodes, -, hmakes, rfl⟩ := hobject
    refine .conj (List.forall_mem_append.mpr ⟨?_, ?_⟩)
    · intro n hn
      obtain ⟨types, -, rfl⟩ := by simpa using hn
      exact .leaf (by simp [typeNode]) rfl
    · exact forall_mem_of_forall₂ (hmakes.flip.imp fun _ _ h => RuleGroup.Makes.checked h)

/-! ## The invariant of the list of procedures -/

/-- What was checked stays checked when entries are opened or filled. -/
theorem Node.Checked.mono {later : List Procedure} {depth : Nat} (h : n.Checked procedures depth)
    (hle : ∀ (i : Nat) (q : Procedure), procedures[i]? = some q →
      ∃ q' : Procedure, later[i]? = some q' ∧ q'.descents = q.descents ∧ (q.body.isSome → q'.body.isSome)) :
    n.Checked later depth := by
  intro entered i hr
  obtain ⟨q, hq, hfilled⟩ := h entered i hr
  obtain ⟨q', hq', hdescents, hbody⟩ := hle i q hq
  exact ⟨q', hq', fun he hd => hbody (hfilled he (hdescents ▸ hd))⟩

theorem Node.Checked.fill {depth : Nat} (h : n.Checked procedures depth) (i : Nat) (body : Node) :
    n.Checked (procedures.modify i (·.fill body)) depth := by
  refine h.mono fun k r hr => ⟨_, by rw [getElem?_fill, hr]; rfl, ?_⟩
  split
  · exact ⟨rfl, fun _ => rfl⟩
  · exact ⟨rfl, id⟩

/-- Every body is checked, and the calls between procedures of one depth that do not enter the data
    follow a rank. -/
structure Ordered (procedures : List Procedure) : Prop where
  checked : ∀ {i : Nat} {q : Procedure} {body : Node}, procedures[i]? = some q → q.body = some body →
    body.Checked procedures q.descents
  ranked : ∃ rank : Nat → Nat, ∀ {i j : Nat} {q r : Procedure} {body : Node},
    procedures[i]? = some q → q.body = some body → body.Reaches false j → procedures[j]? = some r →
    r.descents = q.descents → rank j < rank i

namespace Ordered

theorem nil : Ordered [] where
  checked := fun h => by simp at h
  ranked := ⟨fun _ => 0, fun h => by simp at h⟩

/-- An entry without a body calls nothing, and nothing calls it yet. -/
theorem opened (h : Ordered procedures) (target : Target) (descents : Nat) :
    Ordered (procedures ++ [⟨target, descents, none⟩]) := by
  have hold : ∀ {i : Nat} {q : Procedure} {body : Node},
      (procedures ++ [⟨target, descents, none⟩])[i]? = some q → q.body = some body →
      procedures[i]? = some q := by
    intro i q body hq hbody
    rcases Nat.lt_or_ge i procedures.length with hi | hi
    · rwa [List.getElem?_append_left hi] at hq
    · rw [List.getElem?_append_right hi, List.getElem?_singleton] at hq
      split at hq
      · cases hq
        cases hbody
      · cases hq
  have hnew : ∀ (i : Nat) (q : Procedure), procedures[i]? = some q →
      (procedures ++ [⟨target, descents, none⟩])[i]? = some q :=
    fun i q hq => getElem?_of_prefix (List.prefix_append _ _) hq
  refine ⟨fun hq hbody => ?_, ?_⟩
  · exact (h.checked (hold hq hbody) hbody).mono fun i q hq => ⟨q, hnew i q hq, rfl, id⟩
  -- the rank of the new entry does not matter: it calls nothing and nothing calls it
  · obtain ⟨rank, hrank⟩ := h.ranked
    refine ⟨rank, fun {i j q r body} hq hbody hr hj hd => ?_⟩
    obtain ⟨r', hj', -⟩ := h.checked (hold hq hbody) hbody false j hr
    obtain rfl : r' = r := Option.some.inj ((hnew j r' hj').symm.trans hj)
    exact hrank (hold hq hbody) hbody hr hj' hd

/-- The bodies of a list with an entry filled: the new one and the old ones, checked on the old list. -/
theorem body_of_filled (h : Ordered procedures) {i k : Nat} {q r : Procedure} {body b : Node}
    (hq : procedures[i]? = some q) (hbody : body.Checked procedures q.descents)
    (hk : (procedures.modify i (·.fill body))[k]? = some r) (hb : r.body = some b) :
    b.Checked procedures r.descents ∧ (k = i ∨ procedures[k]? = some r) := by
  rw [getElem?_fill] at hk
  obtain ⟨r₀, hr₀, rfl⟩ := Option.map_eq_some_iff.mp hk
  by_cases hik : i = k
  · subst hik
    obtain rfl : q = r₀ := Option.some.inj (hq.symm.trans hr₀)
    rw [if_pos rfl] at hb ⊢
    obtain rfl : body = b := Option.some.inj hb
    exact ⟨hbody, Or.inl rfl⟩
  · rw [if_neg hik] at hb ⊢
    exact ⟨h.checked hr₀ hb, Or.inr hr₀⟩

/-- A filled entry goes above all that was there: what it calls at its own depth was filled before, and
    nothing filled before calls it from its own depth. -/
theorem filled (h : Ordered procedures) {i : Nat} {q : Procedure} {body : Node}
    (hq : procedures[i]? = some q) (hopen : q.body = none)
    (hbody : body.Checked procedures q.descents) :
    Ordered (procedures.modify i (·.fill body)) := by
  refine ⟨fun hk hb => (h.body_of_filled hq hbody hk hb).1.fill i body, ?_⟩
  obtain ⟨rank, hrank⟩ := h.ranked
  refine ⟨fun k => if k = i then (Finset.range procedures.length).sup rank + 1 else rank k,
    fun {k j r r' b} hk hb hr hj hd => ?_⟩
  obtain ⟨hchecked, hk⟩ := h.body_of_filled hq hbody hk hb
  obtain ⟨r₀, hr₀, hfilled⟩ := hchecked false j hr
  rw [getElem?_fill, hr₀] at hj
  obtain rfl := Option.some.inj hj
  have hdescents : r₀.descents = r.descents := by
    rw [← hd]
    dsimp only
    split <;> rfl
  -- what is called at the caller's depth was filled before, so it is not the new entry
  have hji : j ≠ i := by
    rintro rfl
    obtain rfl : q = r₀ := Option.some.inj (hq.symm.trans hr₀)
    simpa [hopen] using hfilled rfl hdescents
  show (if j = i then _ else rank j) < (if k = i then _ else rank k)
  rw [if_neg hji]
  by_cases hki : k = i
  · rw [if_pos hki]
    obtain ⟨hlt, -⟩ := List.getElem?_eq_some_iff.mp hr₀
    exact Nat.lt_succ_of_le (Finset.le_sup (Finset.mem_range.mpr hlt))
  · rw [if_neg hki]
    exact hrank (hk.resolve_left hki) hb hr hr₀ hdescents

end Ordered

theorem ordered_invariant (env : Environment) : LoweringInvariant env Ordered checkedAt where
  opened h _ := h.opened _ _
  filled h hq hopen hb := h.filled hq hopen hb
  schema h := h.checked

/-! ## Compiled programs -/

theorem lowerProgram_ordered {s : Surroundings} {schema : Json} {root : Node}
    (h : lowerProgram s schema = .ok (root, procedures)) :
    Ordered procedures ∧ root.Checked procedures 0 := by
  obtain ⟨hordered, base, hroot⟩ := lowerProgram_made (fun documents => ordered_invariant _) .nil h
  exact ⟨hordered, hroot⟩

namespace Program

variable {root : Node}

theorem ofLowered_closed (h : Ordered procedures) (hroot : root.Checked procedures 0) :
    (ofLowered (root, procedures)).Closed := by
  have hlength : (ofLowered (root, procedures)).procedures.length = procedures.length :=
    List.length_map _
  refine ⟨fun {entered i} hr => ?_, fun {body entered i} hbody hr => ?_⟩
  · obtain ⟨q, hq, -⟩ := hroot entered i hr
    rw [hlength]
    exact (List.getElem?_eq_some_iff.mp hq).1
  · obtain ⟨q, hq, rfl⟩ := List.mem_map.mp hbody
    obtain ⟨k, hk⟩ := List.getElem?_of_mem hq
    cases hfilled : q.body with
    -- an entry that stayed open became `pass`
    | none =>
      rw [hfilled] at hr
      exact absurd hr Node.not_reaches_pass
    | some b =>
      rw [hfilled] at hr
      obtain ⟨r, hr', -⟩ := h.checked hk hfilled entered i hr
      rw [hlength]
      exact (List.getElem?_eq_some_iff.mp hr').1

/-- A call at one location, with the two entries. -/
theorem CallsHere.entries {i j : Nat} (h : Ordered procedures)
    (hc : (ofLowered (root, procedures)).CallsHere i j) :
    ∃ (q r : Procedure) (body : Node), procedures[i]? = some q ∧ q.body = some body ∧
      body.Reaches false j ∧ procedures[j]? = some r := by
  obtain ⟨body, hbody, hr⟩ := hc
  obtain ⟨q, hq, rfl⟩ := Option.map_eq_some_iff.mp ((List.getElem?_map).symm.trans hbody)
  cases hfilled : q.body with
  | none =>
    rw [hfilled] at hr
    exact absurd hr Node.not_reaches_pass
  | some b =>
    rw [hfilled] at hr
    obtain ⟨r, hj, -⟩ := h.checked hq hfilled false j hr
    exact ⟨q, r, b, hq, hfilled, hr, hj⟩

end Program

/-- How deep in the data a procedure of a compiled program was opened. -/
def entryDepth (s : Surroundings) (schema : Json) (i : Nat) : Nat :=
  match lowerProgram s schema with
  | .ok (_, procedures) => (procedures[i]?.map Procedure.descents).getD 0
  | .error _ => 0

theorem entryDepth_eq {s : Surroundings} {schema : Json} {root : Node} {i : Nat} {q : Procedure}
    (h : lowerProgram s schema = .ok (root, procedures)) (hq : procedures[i]? = some q) :
    entryDepth s schema i = q.descents := by
  simp [entryDepth, h, hq]

/-- The edges of a closed walk each lead to something that leads back. -/
theorem transGen_returning {α : Type} {r : α → α → Prop} {a b : α} (h : Relation.TransGen r a b)
    (hback : Relation.ReflTransGen r b a) :
    Relation.TransGen (fun x y => r x y ∧ Relation.ReflTransGen r y x) a b := by
  induction h with
  | single hab => exact .single ⟨hab, hback⟩
  | tail hab hbc ih => exact (ih (.head hbc hback)).tail ⟨hbc, hback.trans hab.to_reflTransGen⟩

/-- Steps that go up in no measure and keep the first only where they lower the second never return. -/
theorem not_transGen_self {α : Type} {r : α → α → Prop} (depth rank : α → Nat)
    (h : ∀ a b, r a b → depth b ≤ depth a ∧ (depth b = depth a → rank b < rank a)) (a : α) :
    ¬ Relation.TransGen r a a := by
  have hdown : ∀ b, Relation.TransGen r a b → depth b ≤ depth a ∧ (depth b = depth a → rank b < rank a) := by
    intro b hab
    induction hab with
    | single hab => exact h _ _ hab
    | tail _ hbc ih =>
      obtain ⟨hd, hr⟩ := h _ _ hbc
      exact ⟨hd.trans ih.1, fun heq => (hr (by omega)).trans (ih.2 (by omega))⟩
  exact fun haa => Nat.lt_irrefl _ ((hdown a haa).2 rfl)

/-- Without late cycles, depths and ranks go down along every closed walk. -/
theorem ofLowered_acyclic {s : Surroundings} {schema : Json} {root : Node}
    (h : lowerProgram s schema = .ok (root, procedures)) (hordered : Ordered procedures)
    (hlate : ∀ i j, (Program.ofLowered (root, procedures)).CallsHere i j →
      entryDepth s schema i < entryDepth s schema j →
      ¬ Relation.ReflTransGen (Program.ofLowered (root, procedures)).CallsHere j i) :
    ¬ (Program.ofLowered (root, procedures)).Cyclic := by
  rintro ⟨i, hcycle⟩
  obtain ⟨rank, hrank⟩ := hordered.ranked
  refine not_transGen_self (entryDepth s schema) rank ?_ i (transGen_returning hcycle .refl)
  rintro a b ⟨hab, hba⟩
  refine ⟨Nat.le_of_not_lt fun hlt => hlate a b hab hlt hba, fun heq => ?_⟩
  obtain ⟨q, r, body, hq, hbody, hr, hj⟩ := hab.entries hordered
  rw [entryDepth_eq h hq, entryDepth_eq h hj] at heq
  exact hrank hq hbody hr hj heq

/-- **The loop check is complete but for late uses of deeper procedures.**  A compiled program is free
    of cycles, and ends on every value, exactly if no call that does not enter the data, from a
    procedure to one that was opened deeper, closes a cycle. -/
theorem compiled_ends_iff_no_late_cycle (s : Surroundings) (schema : Json) (p : Program)
    (h : compileProgram s schema = .ok p) :
    (¬ p.Cyclic ∧ ∀ failFast data, (p.run failFast data).isSome) ↔
      ∀ i j, p.CallsHere i j → entryDepth s schema i < entryDepth s schema j →
        ¬ Relation.ReflTransGen p.CallsHere j i := by
  rw [compileProgram_eq] at h
  cases hlowered : lowerProgram s schema with
  | error e => simp [hlowered, Except.map] at h
  | ok lowered =>
    obtain ⟨root, procedures⟩ := lowered
    obtain rfl : Program.ofLowered (root, procedures) = p := by
      simpa [hlowered, Except.map] using h
    obtain ⟨hordered, hroot⟩ := lowerProgram_ordered hlowered
    constructor
    · rintro ⟨hacyclic, -⟩ i j hij - hji
      exact hacyclic ⟨i, .head' hij hji⟩
    · intro hlate
      have hacyclic := ofLowered_acyclic hlowered hordered hlate
      exact ⟨hacyclic, Program.run_ends hacyclic (Program.ofLowered_closed hordered hroot)⟩

/-! ## A schema on either side -/

/-- A list as nested objects, which refers to itself one level down. -/
def linkedList : Json := .obj [("properties", .obj [("next", .obj [("$ref", "#")])])]

/-- A program whose one procedure calls itself one level down. -/
def Program.descendsToItself : Program → Bool
  | ⟨_, [.guard .object (.descend _ (.call 0))]⟩ => true
  | _ => false

/-- `linkedList` compiles to a program without cycles. -/
theorem linkedList_ends :
    ∃ p, compileProgram .plain linkedList = .ok p ∧
      ¬ p.Cyclic ∧ ∀ failFast data, (p.run failFast data).isSome := by
  have hshape : (compileProgram .plain linkedList).toOption.any Program.descendsToItself = true := by
    decide +kernel
  cases hcompiled : compileProgram .plain linkedList with
  | error e =>
    rw [hcompiled] at hshape
    cases hshape
  | ok p =>
    rw [hcompiled] at hshape
    have hp : p.descendsToItself = true := hshape
    refine ⟨p, rfl, (compiled_ends_iff_no_late_cycle _ _ p hcompiled).mpr ?_⟩
    rintro i j ⟨body, hbody, hr⟩
    unfold Program.descendsToItself at hp
    split at hp
    · next root step =>
      obtain rfl : body = .guard .object (.descend step (.call 0)) :=
        List.mem_singleton.mp (List.mem_of_getElem? hbody)
      -- the only call stands below a step into the data
      rcases hr.cases_parts with ⟨h, -⟩ | ⟨_, _, _, hp, hr, he⟩
      · cases h
      · obtain ⟨rfl, rfl⟩ := Prod.mk.inj (List.mem_singleton.mp hp)
        rcases hr.cases_parts with ⟨h, -⟩ | ⟨_, _, _, hp, -, hd⟩
        · cases h
        · obtain ⟨rfl, -⟩ := Prod.mk.inj (List.mem_singleton.mp hp)
          rw [hd] at he
          cases he
    · cases hp

/-- `b` is first referred to below a property, and then where it stands for the same data as `a`; by
    then it is filled, and it leads back to `a`. -/
def lateUse : Json :=
  .obj [
    ("definitions", .obj [
      ("a", .obj [("allOf", .arr [
        .obj [("properties", .obj [("x", .obj [("$ref", "#/definitions/b")])])],
        .obj [("$ref", "#/definitions/b")]])]),
      ("b", .obj [("allOf", .arr [.obj [("type", "integer")], .obj [("$ref", "#/definitions/a")]])])]),
    ("$ref", "#/definitions/a")]

/-- What `lateUse` compiles to: two procedures that call each other on every integer. -/
def mutualCalls (inner : Node) (site : ErrorSite) : Program where
  root := .call 0
  procedures := [.all [.guard .object inner, .call 1], .all [.type [.integer] site, .call 0]]

theorem mutualCalls_cyclic (inner : Node) (site : ErrorSite) : (mutualCalls inner site).Cyclic := by
  have hthere : (mutualCalls inner site).CallsHere 0 1 :=
    ⟨_, rfl, show Node.Reaches _ (false || false) 1 from .part (by simp [Node.parts]) (.call 1)⟩
  have hback : (mutualCalls inner site).CallsHere 1 0 :=
    ⟨_, rfl, show Node.Reaches _ (false || false) 0 from .part (by simp [Node.parts]) (.call 0)⟩
  exact ⟨0, .tail (.single hthere) hback⟩

/-- No budget is enough: each call leaves the whole question to the next one. -/
theorem mutualCalls_never_end (inner : Node) (site : ErrorSite) (failFast : Bool) :
    ∀ budget errors,
      (mutualCalls inner site).call failFast budget 0 (.root (1 : Nat)) errors = none ∧
      (mutualCalls inner site).call failFast budget 1 (.root (1 : Nat)) errors = none := by
  intro budget
  induction budget with
  | zero => exact fun _ => ⟨rfl, rfl⟩
  | succ budget ih =>
    intro errors
    constructor
    · rw [Program.call]
      show Node.run _ failFast (.all _) _ errors = none
      simp [Node.run, Node.runs, Run.every, Run.done, DataType.accepts, Location.value, (ih errors).2]
    · have hwhole : (Number.ofNat 1).isWhole = true := rfl
      rw [Program.call]
      show Node.run _ failFast (.all _) _ errors = none
      simp [Node.run, Node.runs, Run.every, Run.done, DataType.accepts, Location.value, hwhole,
        (ih errors).1]

/-- A program of the form `mutualCalls`. -/
def Program.isMutualCalls : Program → Bool
  | ⟨.call 0, [.all [.guard .object _, .call 1], .all [.type [.integer] _, .call 0]]⟩ => true
  | _ => false

theorem Program.eq_mutualCalls {p : Program} (h : p.isMutualCalls = true) :
    ∃ inner site, p = mutualCalls inner site := by
  unfold isMutualCalls at h
  split at h
  · next inner site => exact ⟨inner, site, rfl⟩
  · cases h

/-- `lateUse` compiles all the same, and its program never ends on `1`, whatever the budget. -/
theorem lateUse_never_ends :
    ∃ p, compileProgram .plain lateUse = .ok p ∧ p.Cyclic ∧
      ∀ failFast budget,
        p.root.run (p.call failFast budget) failFast (.root (1 : Nat)) [] = none := by
  have hshape : (compileProgram .plain lateUse).toOption.any Program.isMutualCalls = true := by
    decide +kernel
  cases hcompiled : compileProgram .plain lateUse with
  | error e =>
    rw [hcompiled] at hshape
    cases hshape
  | ok p =>
    rw [hcompiled] at hshape
    obtain ⟨inner, site, rfl⟩ := Program.eq_mutualCalls (p := p) hshape
    refine ⟨mutualCalls inner site, rfl, mutualCalls_cyclic inner site, fun failFast budget => ?_⟩
    exact (mutualCalls_never_end inner site failFast budget []).1

end JsonSchema
