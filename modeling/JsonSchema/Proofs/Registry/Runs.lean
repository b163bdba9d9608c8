import JsonSchema.Proofs.Registry.Removal

/-!
# The registry of a compiler

`Compiler.Reached` says what the calls that change a compiler can make of a new one.  None of them breaks
the coherence of its registry (`Reached.coherent`), and of these calls `removeKeyword` undoes `addKeyword`.

Main statements: `indexes_agree_with_groups` and `removeKeyword_undoes_addKeyword`.
-/

set_option autoImplicit false

namespace JsonSchema

/-- A sequence succeeds if both of its steps do. -/
theorem bind_eq_ok {ε α β : Type} {x : Except ε α} {f : α → Except ε β} {b : β} :
    x >>= f = .ok b ↔ ∃ a, x = .ok a ∧ f a = .ok b := by
  cases x with
  | error e => exact ⟨nofun, nofun⟩
  | ok a => exact ⟨fun h => ⟨a, rfl, h⟩, fun ⟨_, ha, h⟩ => Except.ok.inj ha ▸ h⟩

/-- What holds before a sequence of steps and is kept by each holds after it. -/
theorem foldlM_induct {ε α β : Type} {P : β → Prop} {f : β → α → Except ε β} {xs : List α}
    (hstep : ∀ b x b', P b → f b x = .ok b' → P b') {b b' : β} (hb : P b)
    (h : xs.foldlM f b = .ok b') : P b' := by
  induction xs generalizing b with
  | nil => exact Except.ok.inj h ▸ hb
  | cons x rest ih =>
    rw [List.foldlM_cons] at h
    obtain ⟨b₁, hb₁, hrest⟩ := bind_eq_ok.mp h
    exact ih (hstep b x b₁ hb hb₁) hrest

namespace Compiler

/-- What a compiler lends to lowering. -/
def surroundings (c : Compiler) : Surroundings :=
  { registry := c.registry, options := c.options, formats := c.formats, cache := c.documents }

/-- What the calls that change a compiler can make of a new one.  Calls that fail change nothing. -/
inductive Reached (options : Options) : Compiler → Prop where
  | new : Reached options (.new options)
  | addKeyword {c c' : Compiler} {name : String} {definition : KeywordDefinition} {checked : Bool} :
      Reached options c → c.addKeyword name definition checked = .ok c' → Reached options c'
  | addVocabulary {c c' : Compiler} {definitions : List KeywordDefinition} {checked : Bool} :
      Reached options c → c.addVocabulary definitions checked = .ok c' → Reached options c'
  | removeKeyword {c : Compiler} (name : String) :
      Reached options c → Reached options (c.removeKeyword name)
  | addSchema {c c' : Compiler} {schema : Json} {key : Option String} {normalized : String} :
      Reached options c → c.addSchema schema key = .ok (c', normalized) → Reached options c'
  | removeSchema {c : Compiler} (key : String) :
      Reached options c → Reached options (c.removeSchema key).1
  | getSchema {c c' : Compiler} {key : String} {validator : Option Validator} :
      Reached options c → c.getSchema key = .ok (c', validator) → Reached options c'
  | addFormat {c : Compiler} (name : String) (format : Format) :
      Reached options c → Reached options (c.addFormat name format)

section

variable {options : Options} {c c' : Compiler}

/-! ## What the calls do to the registry -/

/-- What is registered has the check that its definition asks for under the registry of that moment. -/
theorem register_made {r r' : Registry} {name : String} {definition : KeywordDefinition}
    {checked : Bool} (h : c.register r name definition checked = .ok r') :
    r.isKnown name = false ∧ ∃ metaValidator, c.metaValidator r definition = .ok metaValidator ∧
      r' = r.addCustom (.ofCustom name definition metaValidator) definition.types := by
  have hmade : (do
      let metaValidator ← c.metaValidator r definition
      return r.addCustom (.ofCustom name definition metaValidator) definition.types) = Except.ok r' →
      ∃ metaValidator, c.metaValidator r definition = .ok metaValidator ∧
        r' = r.addCustom (.ofCustom name definition metaValidator) definition.types := by
    intro hmade
    obtain ⟨metaValidator, hvalidator, heq⟩ := bind_eq_ok.mp hmade
    exact ⟨metaValidator, hvalidator, (Except.ok.inj heq).symm⟩
  unfold register at h
  dsimp only at h
  split at h
  · cases h
  · next hunknown =>
    refine ⟨Bool.eq_false_iff.mpr hunknown, ?_⟩
    split at h
    · cases h
    · split at h
      · obtain ⟨violations, -, h⟩ := bind_eq_ok.mp h
        split at h
        · cases h
        · exact hmade h
      · exact hmade h

/-- Only a keyword that was not known is registered. -/
theorem register_eq_ok {r r' : Registry} {name : String} {definition : KeywordDefinition}
    {checked : Bool} (h : c.register r name definition checked = .ok r') :
    r.isKnown name = false ∧
      ∃ metaValidator, r' = r.addCustom (.ofCustom name definition metaValidator) definition.types := by
  obtain ⟨hunknown, metaValidator, -, heq⟩ := register_made h
  exact ⟨hunknown, metaValidator, heq⟩

theorem addKeyword_eq_ok {name : String} {definition : KeywordDefinition} {checked : Bool}
    (h : c.addKeyword name definition checked = .ok c') :
    ∃ definition' registry, definition'.implements = definition.implements ∧
      c.register c.registry name definition' checked = .ok registry ∧
      c' = { c with registry, compiled := .empty } := by
  obtain ⟨registry, hregistry, heq⟩ := bind_eq_ok.mp h
  refine ⟨_, registry, ?_, hregistry, (Except.ok.inj heq).symm⟩
  split <;> rfl

theorem removeKeyword_eq (c : Compiler) (name : String) :
    c.removeKeyword name =
      { c with
        registry := (c.registry.remove name).1
        compiled := if c.registry.holds name then .empty else c.compiled } := by
  unfold removeKeyword
  dsimp only
  rw [show (c.registry.remove name).2 = c.registry.holds name from rfl]
  split <;> rfl

/-- A document is added under a key that is free. -/
theorem addSchema_eq {schema : Json} {id key : String}
    (hkey : normalizeId id = .ok key) (hfree : c.documents.contains key = false) :
    c.addSchema schema (some id) = .ok ({ c with documents := c.documents.set key schema }.invalidate, key) := by
  show (normalizeId id >>= fun key => _) = _
  rw [hkey]
  show (if c.documents.contains key then _ else _) = _
  rw [hfree]
  rfl

theorem addSchema_eq_ok {schema : Json} {key : Option String} {normalized : String}
    (h : c.addSchema schema key = .ok (c', normalized)) :
    c' = { c with documents := c.documents.set normalized schema, compiled := .empty } := by
  unfold addSchema at h
  dsimp only at h
  split at h
  · obtain ⟨key', -, h⟩ := bind_eq_ok.mp h
    split at h
    · cases h
    · obtain ⟨rfl, rfl⟩ := Prod.mk.inj (Except.ok.inj h)
      rfl
  · cases h

theorem removeSchema_registry (c : Compiler) (key : String) :
    (c.removeSchema key).1.registry = c.registry := by
  unfold removeSchema
  cases normalizeId key with
  | error e => rfl
  | ok key' =>
    dsimp only
    cases c.documents.get? key' with
    | none => rfl
    | some schema => rfl

theorem getSchema_registry {key : String} {validator : Option Validator}
    (h : c.getSchema key = .ok (c', validator)) : c'.registry = c.registry := by
  obtain ⟨key', -, h⟩ := bind_eq_ok.mp h
  split at h
  · obtain ⟨rfl, -⟩ := Prod.mk.inj (Except.ok.inj h)
    rfl
  · obtain ⟨rfl, -⟩ := Prod.mk.inj (Except.ok.inj h)
    rfl
  · obtain ⟨compiled, -, h⟩ := bind_eq_ok.mp h
    obtain ⟨rfl, -⟩ := Prod.mk.inj (Except.ok.inj h)
    rfl

/-- What the registry of draft-07 has, and what adding and removing custom keywords keep, every registry of a
    compiler has. -/
theorem Reached.registry_induct {P : Registry → Prop} (hnew : P .withBuiltins)
    (hadd : ∀ r name definition metaValidator, P r → r.isKnown name = false →
      P (r.addCustom (.ofCustom name definition metaValidator) definition.types))
    (hremove : ∀ r name, P r → P (r.remove name).1) (h : Reached options c) : P c.registry := by
  have hregister : ∀ {c : Compiler} {r r' : Registry} {name definition checked}, P r →
      c.register r name definition checked = .ok r' → P r' := by
    intro c r r' name definition checked hr hr'
    obtain ⟨hunknown, metaValidator, rfl⟩ := register_eq_ok hr'
    exact hadd r name definition metaValidator hr hunknown
  induction h with
  | new => exact hnew
  | addKeyword _ hadd ih =>
    obtain ⟨definition, registry, -, hregistered, rfl⟩ := addKeyword_eq_ok hadd
    exact hregister ih hregistered
  | addVocabulary _ hadd ih =>
    obtain ⟨registry, hregistry, heq⟩ := bind_eq_ok.mp hadd
    obtain rfl := Except.ok.inj heq
    refine foldlM_induct (fun r definition r' hr hr' => ?_) ih hregistry
    unfold registerAll at hr'
    split at hr'
    · cases hr'
    · exact foldlM_induct (fun _ _ _ => hregister) hr hr'
  | @removeKeyword c name _ ih =>
    rw [removeKeyword_eq]
    exact hremove _ name ih
  | addSchema _ hadd ih => exact addSchema_eq_ok hadd ▸ ih
  | @removeSchema c key _ ih => exact c.removeSchema_registry key ▸ ih
  | getSchema _ hget ih => exact getSchema_registry hget ▸ ih
  | addFormat _ _ _ ih => exact ih

/-- **No call breaks the coherence of the registry.** -/
theorem Reached.coherent (h : Reached options c) : c.registry.Coherent :=
  h.registry_induct Registry.withBuiltins_coherent
    (fun _ _ definition _ hr hunknown => hr.addCustom hunknown rfl definition.types)
    fun _ name hr => hr.remove name

end

end Compiler

/-- A keyword for two types that have no group of their own, which takes care of a keyword of draft-07, of
    an unknown one and of itself. -/
def blank : KeywordDefinition where
  keywords := ["blank"]
  types := [.null, .boolean]
  implements := ["additionalItems", "nil", "blank"]
  validate := some fun _ _ => true

/-! ## Coherence -/

/-- **The tables of a registry go with its groups**, whatever was added to a compiler and removed:
    * the types of the groups, each of another type, lead to their positions and no other type does;
    * a keyword has exactly the places at which its rules stand, and no keyword has none;
    * every rule has a number of its own, and all numbers are below the next;
    * the custom rules are those in the groups;
    * who is said to take care of a keyword has a rule that does;
    * the fixed implied keywords are implied;
    * only groups of draft-07 are empty. -/
theorem indexes_agree_with_groups {options : Options} {c : Compiler} (h : c.Reached options) :
    let r := c.registry
    ((r.groups.map RuleGroup.appliesTo).Nodup ∧ ∀ appliesTo i,
      r.byType.get? appliesTo = some i ↔ ∃ g, r.groups[i]? = some g ∧ g.appliesTo = appliesTo) ∧
    (∀ keyword, r.membership.get? keyword ≠ some [] ∧ ((r.membership.get? keyword).getD []).Nodup ∧
      ∀ place, place ∈ (r.membership.get? keyword).getD [] ↔
        ∃ rule, r.Holds place rule ∧ rule.keyword = keyword) ∧
    ((∀ g ∈ r.groups, (g.numbered.map Prod.fst).Pairwise (· < ·)) ∧
      (∀ place place' rule rule', r.Holds place rule → r.Holds place' rule' → place.2 = place'.2 →
        place = place' ∧ rule = rule') ∧
      ∀ place rule, r.Holds place rule → place.2 < r.nextNumber) ∧
    (∀ keyword rule, r.custom.get? keyword = some rule ↔
      rule.isCustom = true ∧ rule.keyword = keyword ∧ ∃ place, r.Holds place rule) ∧
    (∀ keyword names, r.implied.get? keyword = some names → ∀ name ∈ names,
      ∃ place rule, r.Holds place rule ∧ rule.keyword = name ∧ keyword ∈ rule.implements) ∧
    (∀ keyword ∈ r.fixedImplied, keyword ∈ r.implied.keys) ∧
    ∀ g ∈ r.groups, g.isBuiltin = false → g.numbered ≠ [] := by
  have hr := h.coherent
  exact ⟨⟨hr.placed.types_nodup, hr.placed.get?_iff⟩,
    fun keyword => ⟨hr.listed.ne_nil keyword, hr.listed.nodup keyword, hr.listed.mem_iff keyword⟩,
    ⟨hr.numbered.ascending, fun _ _ _ _ => hr.numbered.unique, fun _ _ => hr.numbered.below⟩,
    hr.custom, fun _ _ => hr.credited.implements, hr.credited.fixed, hr.occupied⟩

/-- After a keyword for two new types was added and a keyword of draft-07 that it takes care of was
    removed, both new groups have the rule, under the places that the table of places gives. -/
theorem blank_indexed :
    ∃ c, (Compiler.new {}).addKeyword "blank" blank true = .ok c ∧
      (c.removeKeyword "additionalItems").Reached {} ∧
      (c.removeKeyword "additionalItems").registry.membership.get? "blank" =
        some [(some .null, 29), (some .boolean, 30)] ∧
      ∀ i ∈ [29, 30], ∃ type rule,
        (c.removeKeyword "additionalItems").registry.Holds (type, i) rule ∧ rule.keyword = "blank" := by
  have hplaces : ((Compiler.new {}).addKeyword "blank" blank true).toOption.any (fun c =>
      (c.removeKeyword "additionalItems").registry.membership.get? "blank" ==
        some [(some .null, 29), (some .boolean, 30)]) = true := by decide +kernel
  cases hc : (Compiler.new {}).addKeyword "blank" blank true with
  | error e =>
    rw [hc] at hplaces
    cases hplaces
  | ok c =>
    rw [hc] at hplaces
    have hplaces : (c.removeKeyword "additionalItems").registry.membership.get? "blank" =
        some [(some .null, 29), (some .boolean, 30)] := eq_of_beq hplaces
    have hreached := (Compiler.Reached.new.addKeyword hc).removeKeyword "additionalItems"
    obtain ⟨-, hlisted, -⟩ := indexes_agree_with_groups hreached
    refine ⟨c, rfl, hreached, hplaces, fun i hi => ?_⟩
    have hmem := (hlisted "blank").2.2
    rw [hplaces] at hmem
    simp only [List.mem_cons, List.not_mem_nil, or_false] at hi
    rcases hi with rfl | rfl
    · exact ⟨_, (hmem (some .null, 29)).mp (by simp)⟩
    · exact ⟨_, (hmem (some .boolean, 30)).mp (by simp)⟩

/-! ## Undoing -/

namespace Compiler

/-- Nothing is left of a keyword that is removed right after it was added, but for the number that the
    next rule gets, and for the validators of documents, which are made again. -/
theorem removeKeyword_addKeyword {options : Options} {c c' : Compiler} (hc : Reached options c)
    {name : String} {definition : KeywordDefinition} {checked : Bool}
    (h : c.addKeyword name definition checked = .ok c') :
    c'.removeKeyword name =
      { c with
        registry := { c.registry with nextNumber := c'.registry.nextNumber }
        compiled := .empty } := by
  obtain ⟨definition', registry, -, hregister, rfl⟩ := addKeyword_eq_ok h
  obtain ⟨hunknown, metaValidator, rfl⟩ := register_eq_ok hregister
  have hremoved := @Registry.Coherent.remove_addCustom _ hc.coherent
    (.ofCustom name definition' metaValidator) hunknown definition'.types
  have hcustom : (c.registry.addCustom (.ofCustom name definition' metaValidator)
      definition'.types).custom.contains name = true := by
    rw [Registry.addCustom_eq, Table.contains_iff]
    exact (Table.mem_keys_set ..).mpr (.inl rfl)
  have hheld : (c.registry.addCustom (.ofCustom name definition' metaValidator)
      definition'.types).holds name = true := by
    unfold Registry.holds
    rw [hcustom]
    simp
  rw [removeKeyword_eq, hheld, if_pos rfl, show (Registry.remove _ name).1 = _ from hremoved]

end Compiler

/-- **Removing a keyword undoes adding it**: to whatever compiler a keyword is added, checked or not, once
    it is removed again there are the keywords that there were, in the groups that there were, and each
    name leads to what it led to. -/
theorem removeKeyword_undoes_addKeyword {options : Options} {c c' : Compiler} (hc : c.Reached options)
    {name : String} {definition : KeywordDefinition} {checked : Bool}
    (h : c.addKeyword name definition checked = .ok c') :
    let restored := c'.removeKeyword name
    restored.registry.keywords = c.registry.keywords ∧
    restored.registry.groupKeywords = c.registry.groupKeywords ∧
    ∀ keyword, restored.registry.isKnown keyword = c.registry.isKnown keyword ∧
      restored.registry.hasRule keyword = c.registry.hasRule keyword ∧
      restored.registry.custom.get? keyword = c.registry.custom.get? keyword ∧
      restored.getKeyword keyword = c.getKeyword keyword := by
  dsimp only
  rw [Compiler.removeKeyword_addKeyword hc h]
  exact ⟨rfl, rfl, fun keyword => ⟨rfl, rfl, rfl, rfl⟩⟩

/-- The keyword that takes care of itself, of a keyword of draft-07 and of an unknown one leaves no
    trace. -/
theorem blank_undone :
    ∃ c c', (Compiler.new {}).Reached {} ∧ c = (Compiler.new {}).removeKeyword "items" ∧
      c.addKeyword "blank" blank true = .ok c' ∧ c'.registry.groupKeywords.length = 7 ∧
      (c'.removeKeyword "blank").registry.keywords = c.registry.keywords ∧
      (c'.removeKeyword "blank").registry.groupKeywords = c.registry.groupKeywords := by
  have hgroups : (((Compiler.new {}).removeKeyword "items").addKeyword "blank" blank true).toOption.any
      (fun c => c.registry.groupKeywords.length == 7) = true := by decide +kernel
  cases hc' : ((Compiler.new {}).removeKeyword "items").addKeyword "blank" blank true with
  | error e =>
    rw [hc'] at hgroups
    cases hgroups
  | ok c' =>
    rw [hc'] at hgroups
    obtain ⟨hkeywords, hsame, -⟩ :=
      removeKeyword_undoes_addKeyword (.removeKeyword "items" (@Compiler.Reached.new {})) hc'
    exact ⟨_, c', .new, rfl, hc', eq_of_beq hgroups, hkeywords, hsame⟩

end JsonSchema
