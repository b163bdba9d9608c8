import JsonSchema.Proofs.Compiler.Calls

/-!
# Vocabularies

A vocabulary is added under a registry of its own, which takes the place of the compiler's only once all
names are in it.  Since adding a keyword sees nothing of a compiler that adding another changes, but the
registry, **adding a vocabulary is adding its keywords one after the other, or nothing**.

Main statement: `addVocabulary_all_or_nothing`.
-/

set_option autoImplicit false

namespace JsonSchema

namespace Compiler

/-- Adds keywords one after the other. -/
def addKeywords (c : Compiler) (uses : List (String × KeywordDefinition)) (checked : Bool) :
    Except SchemaError Compiler :=
  uses.foldlM (fun c use => c.addKeyword use.1 use.2 checked) c

/-- Every name of every definition of a vocabulary, with the definition. -/
def uses (definitions : List KeywordDefinition) : List (String × KeywordDefinition) :=
  definitions.flatMap fun d => d.keywords.map fun name => (name, d)

variable {c : Compiler} {checked : Bool}

theorem addKeywords_append (before after : List (String × KeywordDefinition)) :
    c.addKeywords (before ++ after) checked =
      (c.addKeywords before checked).bind fun c' => c'.addKeywords after checked :=
  List.foldlM_append

/-- **Adding keywords fails where the first of them does.** -/
theorem addKeywords_eq_error_iff {added : List (String × KeywordDefinition)} {e : SchemaError} :
    c.addKeywords added checked = .error e ↔
      ∃ before use after c₁, added = before ++ use :: after ∧ c.addKeywords before checked = .ok c₁ ∧
        c₁.addKeyword use.1 use.2 checked = .error e := by
  constructor
  · intro h
    induction added generalizing c with
    | nil => cases h
    | cons use rest ih =>
      have hstep : (c.addKeyword use.1 use.2 checked).bind
          (fun c₁ => c₁.addKeywords rest checked) = .error e := h
      cases hadd : c.addKeyword use.1 use.2 checked with
      | error e' =>
        rw [hadd] at hstep
        obtain rfl := Except.error.inj hstep
        exact ⟨[], use, rest, c, rfl, rfl, hadd⟩
      | ok c₁ =>
        rw [hadd] at hstep
        obtain ⟨before, use', after, c₂, rfl, hbefore, hfails⟩ := ih hstep
        refine ⟨use :: before, use', after, c₂, rfl, ?_, hfails⟩
        show (c.addKeyword use.1 use.2 checked).bind (fun c₁ => c₁.addKeywords before checked) = .ok c₂
        rw [hadd]
        exact hbefore
  · rintro ⟨before, use, after, c₁, rfl, hbefore, hfails⟩
    rw [addKeywords_append, hbefore]
    show (c₁.addKeyword use.1 use.2 checked).bind _ = .error e
    rw [hfails]
    rfl

theorem addKeyword_eq {definition : KeywordDefinition} (hnamed : definition.keywords ≠ [])
    (name : String) :
    c.addKeyword name definition checked =
      (c.register c.registry name definition checked).map fun registry =>
        { c with registry }.invalidate := by
  unfold addKeyword
  rw [List.isEmpty_eq_false_iff.mpr hnamed]
  cases hregister : c.register c.registry name definition checked with
  | error e =>
    show (c.register c.registry name definition checked).bind _ = _
    rw [hregister]
    rfl
  | ok registry =>
    show (c.register c.registry name definition checked).bind _ = _
    rw [hregister]
    rfl

/-- Adding keywords one after the other registers them in a registry of their own. -/
theorem addKeywords_eq {added : List (String × KeywordDefinition)}
    (hnamed : ∀ use ∈ added, use.2.keywords ≠ []) :
    (c.addKeywords added checked).map invalidate =
      (added.foldlM (fun r use => c.register r use.1 use.2 checked) c.registry).map fun registry =>
        { c with registry }.invalidate := by
  induction added generalizing c with
  | nil => rfl
  | cons use rest ih =>
    obtain ⟨huse, hrest⟩ := List.forall_mem_cons.mp hnamed
    show ((c.addKeyword use.1 use.2 checked).bind fun c₁ => c₁.addKeywords rest checked).map invalidate =
      ((c.register c.registry use.1 use.2 checked).bind fun r =>
        rest.foldlM (fun r use => c.register r use.1 use.2 checked) r).map _
    rw [addKeyword_eq huse]
    cases c.register c.registry use.1 use.2 checked with
    | error e => rfl
    | ok registry => exact @ih { c with registry, compiled := .empty } hrest

/-- A vocabulary registers each name of its definitions, in order. -/
theorem registerAll_uses {definitions : List KeywordDefinition}
    (hnamed : ∀ d ∈ definitions, d.keywords ≠ []) (r : Registry) :
    definitions.foldlM (c.registerAll checked) r =
      (uses definitions).foldlM (fun r use => c.register r use.1 use.2 checked) r := by
  induction definitions generalizing r with
  | nil => rfl
  | cons d rest ih =>
    obtain ⟨hd, hrest⟩ := List.forall_mem_cons.mp hnamed
    have hone : c.registerAll checked r d =
        (d.keywords.map fun name => (name, d)).foldlM
          (fun r use => c.register r use.1 use.2 checked) r := by
      rw [registerAll, if_neg (by simpa using hd), List.foldlM_map]
    rw [List.foldlM_cons, hone]
    simp only [ih hrest]
    exact (List.foldlM_append ..).symm

/-- **Adding a vocabulary is adding its keywords one after the other**, but for the validators that are
    kept if there are none. -/
theorem addVocabulary_eq {definitions : List KeywordDefinition}
    (hnamed : ∀ d ∈ definitions, d.keywords ≠ []) :
    c.addVocabulary definitions checked =
      (c.addKeywords (uses definitions) checked).map invalidate := by
  rw [addKeywords_eq, ← registerAll_uses hnamed]
  · unfold addVocabulary
    cases definitions.foldlM (c.registerAll checked) c.registry <;> rfl
  · intro use huse
    obtain ⟨d, hd, hname⟩ := List.mem_flatMap.mp huse
    obtain ⟨name, -, rfl⟩ := List.mem_map.mp hname
    exact hnamed d hd

end Compiler

open Compiler in
/-- **A vocabulary is added as a whole or not at all**, to whatever compiler, checked or not, if each
    definition has a name:
    * it succeeds if adding all its names in order does, and then the compiler is the same;
    * otherwise it fails as the first of them that fails;
    * and then the compiler is as it was. -/
theorem addVocabulary_all_or_nothing (c : Compiler) {definitions : List KeywordDefinition}
    (hnamed : ∀ d ∈ definitions, d.keywords ≠ []) (checked : Bool) :
    (∀ c', c.addVocabulary definitions checked = .ok c' ↔
      ∃ c'', c.addKeywords (uses definitions) checked = .ok c'' ∧ c' = c''.invalidate) ∧
    ∀ e, (c.addVocabulary definitions checked = .error e ↔
        ∃ before use after c₁, uses definitions = before ++ use :: after ∧
          c.addKeywords before checked = .ok c₁ ∧ c₁.addKeyword use.1 use.2 checked = .error e) ∧
      (c.addVocabulary definitions checked = .error e →
        c.perform (.addVocabulary definitions checked) = c) := by
  rw [addVocabulary_eq hnamed]
  refine ⟨fun c' => ?_, fun e => ⟨?_, fun h => ?_⟩⟩
  · cases c.addKeywords (uses definitions) checked with
    | error e => simp [Except.map]
    | ok c'' => simp [Except.map, eq_comm]
  · rw [← addKeywords_eq_error_iff]
    cases c.addKeywords (uses definitions) checked with
    | error e' => simp [Except.map]
    | ok c'' => simp [Except.map]
  · show c.settle (c.addVocabulary definitions checked) = c
    rw [addVocabulary_eq hnamed, h]
    rfl

/-- A keyword with a second name, which is that of `blank`. -/
def twin : KeywordDefinition where
  keywords := ["twin", "blank"]
  validate := some fun _ _ => true

/-- The keyword that a refusal says is there already, if it says that. -/
def duplicateKeyword? {α : Type} : Except SchemaError α → Option String
  | .error (.duplicateKeyword keyword) => some keyword
  | _ => none

theorem eq_error_of_duplicateKeyword? {α : Type} {x : Except SchemaError α} {keyword : String}
    (h : duplicateKeyword? x = some keyword) : x = .error (.duplicateKeyword keyword) := by
  cases x with
  | ok a => cases h
  | error e =>
    cases e with
    | duplicateKeyword name => rw [Option.some.inj h]
    | _ => cases h

/-- The last name of a vocabulary is one that it has added itself, and nothing of it stays. -/
theorem twin_refused :
    (∀ d ∈ [blank, twin], d.keywords ≠ []) ∧
      (Compiler.new {}).addVocabulary [blank, twin] true = .error (.duplicateKeyword "blank") ∧
      (Compiler.new {}).perform (.addVocabulary [blank, twin] true) = Compiler.new {} := by
  have hnamed : ∀ d ∈ [blank, twin], d.keywords ≠ [] := by simp [blank, twin]
  have hfails : ((Compiler.new {}).addKeywords [("blank", blank), ("twin", twin)] true).toOption.any
      (fun c₁ => duplicateKeyword? (c₁.addKeyword "blank" twin true) == some "blank") = true := by
    decide +kernel
  cases hbefore : (Compiler.new {}).addKeywords [("blank", blank), ("twin", twin)] true with
  | error e =>
    rw [hbefore] at hfails
    cases hfails
  | ok c₁ =>
    rw [hbefore] at hfails
    have hlast := eq_error_of_duplicateKeyword? (eq_of_beq hfails)
    obtain ⟨-, herrors⟩ := addVocabulary_all_or_nothing (Compiler.new {}) hnamed true
    obtain ⟨hiff, hsame⟩ := herrors (.duplicateKeyword "blank")
    have herror := hiff.mpr ⟨_, ("blank", twin), [], c₁, rfl, hbefore, hlast⟩
    exact ⟨hnamed, herror, hsame herror⟩

end JsonSchema
