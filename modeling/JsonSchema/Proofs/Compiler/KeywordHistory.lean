import JsonSchema.Proofs.Compiler.Calls
import JsonSchema.Proofs.Registry.CustomRules

/-!
# Keywords after a history of calls

What a compiler says of a keyword is read off tables that keep no history.  `Compiler.history` writes down
which keywords the calls have added and removed, the refused ones nothing, and `Registry.Recorded` says of
each table what it has after such a history: one lemma for an addition, one for a removal, and from these it
follows for every sequence of calls (`Compiler.run_recorded`).

A name is known for one of three reasons: a custom keyword has it, draft-07 does and it was not removed, or
a custom keyword takes care of it (`Compiler.getKeyword_after`).

Main statement: `keyword_told_by_history`.
-/

set_option autoImplicit false

namespace JsonSchema

/-- What a call has done to the keywords. -/
inductive Change where
  | added (name : String) (definition : KeywordDefinition)
  | removed (name : String)

/-! ## Histories -/

section

variable {history : List Change} {name : String} {definition : KeywordDefinition} {names : List String}

/-- The definition was added under the name, and none of the names was removed since. -/
def Stands (history : List Change) (name : String) (definition : KeywordDefinition)
    (names : List String) : Prop :=
  ∃ before after, history = before ++ .added name definition :: after ∧
    ∀ other ∈ names, Change.removed other ∉ after

/-- The name is that of a custom keyword with the definition. -/
def Registered (history : List Change) (name : String) (definition : KeywordDefinition) : Prop :=
  Stands history name definition [name]

/-- A custom keyword takes care of the name, and neither of the two was removed since it was added. -/
def TakenCareOf (history : List Change) (name : String) : Prop :=
  ∃ other definition, name ∈ definition.implements ∧ Stands history other definition [other, name]

/-- The registry that the history begins with knows the name, and it was not removed, unless the engine
    handles it. -/
def StillKnown (start : Registry) (history : List Change) (name : String) : Prop :=
  start.isKnown name = true ∧ (name ∈ engineKeywords ∨ Change.removed name ∉ history)

theorem not_stands_nil : ¬Stands [] name definition names := by
  rintro ⟨before, after, heq, -⟩
  exact List.append_ne_nil_of_right_ne_nil before (List.cons_ne_nil _ _) heq.symm

theorem Stands.mem (h : Stands history name definition names) : Change.added name definition ∈ history := by
  obtain ⟨before, after, rfl, -⟩ := h
  exact List.mem_append_right _ List.mem_cons_self

/-- What stands after one more change stood before it, unless it is what was added. -/
theorem stands_concat {change : Change} :
    Stands (history ++ [change]) name definition names ↔
      (Stands history name definition names ∧ ∀ other ∈ names, Change.removed other ≠ change) ∨
        change = .added name definition := by
  constructor
  · rintro ⟨before, after, heq, hkept⟩
    rcases after.eq_nil_or_concat with rfl | ⟨after, last, rfl⟩
    · exact .inr (List.head_eq_of_cons_eq (List.append_inj' heq rfl).2)
    · rw [List.concat_eq_append, ← List.cons_append, ← List.append_assoc] at heq
      obtain ⟨hhistory, hlast⟩ := List.append_inj' heq rfl
      obtain rfl := List.head_eq_of_cons_eq hlast
      rw [List.concat_eq_append] at hkept
      refine .inl ⟨⟨before, after, hhistory, fun other hother hmem => ?_⟩, fun other hother heq => ?_⟩
      · exact hkept other hother (List.mem_append_left _ hmem)
      · exact hkept other hother (List.mem_append_right _ (List.mem_singleton.mpr heq))
  · rintro (⟨⟨before, after, rfl, hkept⟩, hnot⟩ | rfl)
    · refine ⟨before, after ++ [change], by simp, fun other hother hmem => ?_⟩
      rcases List.mem_append.mp hmem with hmem | hmem
      · exact hkept other hother hmem
      · exact hnot other hother (List.mem_singleton.mp hmem)
    · exact ⟨history, [], rfl, fun _ _ => List.not_mem_nil⟩

theorem stands_added {other : String} {definition' : KeywordDefinition} :
    Stands (history ++ [.added other definition']) name definition names ↔
      Stands history name definition names ∨ name = other ∧ definition = definition' := by
  rw [stands_concat, Change.added.injEq]
  simp only [ne_eq, reduceCtorEq, not_false_eq_true, implies_true, and_true]
  exact or_congr_right ⟨fun h => ⟨h.1.symm, h.2.symm⟩, fun h => ⟨h.1.symm, h.2.symm⟩⟩

theorem stands_removed {other : String} :
    Stands (history ++ [.removed other]) name definition names ↔
      Stands history name definition names ∧ other ∉ names := by
  rw [stands_concat]
  simp only [ne_eq, reduceCtorEq, or_false, Change.removed.injEq]
  exact and_congr_right fun _ => ⟨fun h hmem => h other hmem rfl, fun h _ hmem heq => h (heq ▸ hmem)⟩

theorem removed_notMem_concat {change : Change} :
    Change.removed name ∉ history ++ [change] ↔
      Change.removed name ∉ history ∧ Change.removed name ≠ change := by
  rw [List.mem_append, List.mem_singleton, not_or]

end

/-! ## What the tables of a registry have -/

namespace Registry

section

variable {r : Registry}

theorem Listed.hasRule_iff (h : r.Listed) (keyword : String) :
    r.hasRule keyword = true ↔ ((r.membership.get? keyword).getD []).map Prod.fst ≠ [] := by
  unfold hasRule Table.contains
  cases hplaces : r.membership.get? keyword with
  | none => simp
  | some places =>
    have hne : places ≠ [] := fun heq => h.ne_nil keyword (heq ▸ hplaces)
    simp [hne]

/-- Of all names, only that of a custom rule that is added gets a rule. -/
theorem Coherent.hasRule_addCustom (h : r.Coherent) {rule : Rule} (hunknown : r.isKnown rule.keyword = false)
    (hcustom : rule.isCustom = true) (types : List DataType) (keyword : String) :
    (r.addCustom rule types).hasRule keyword = true ↔ r.hasRule keyword = true ∨ keyword = rule.keyword := by
  rw [(h.addCustom hunknown hcustom types).listed.hasRule_iff, h.listed.hasRule_iff]
  have hplaces := membership_foldl_insert rule (placesOf types) keyword r
  rw [addCustom_eq]
  dsimp only
  rw [hplaces]
  by_cases hkeyword : keyword = rule.keyword
  · simp [hkeyword, placesOf_ne_nil]
  · simp [hkeyword]

theorem hasRule_remove (h : r.Indexed) (name keyword : String) :
    (r.remove name).1.hasRule keyword = true ↔ r.hasRule keyword = true ∧ keyword ≠ name := by
  unfold hasRule Table.contains
  rw [h.remove_eq, Table.get?_erase]
  split
  · next heq => simp [heq]
  · next hne => simp [hne]

/-- A custom rule that is added takes care of what its definition says, and the others of what they did. -/
theorem mem_implied_addCustom (r : Registry) (rule : Rule) (types : List DataType) (keyword other : String) :
    other ∈ ((r.addCustom rule types).implied.get? keyword).getD [] ↔
      other ∈ (r.implied.get? keyword).getD [] ∨ other = rule.keyword ∧ keyword ∈ rule.implements := by
  have hinsert : ∀ (r : Registry) appliesTo,
      other ∈ ((r.insert appliesTo rule).implied.get? keyword).getD [] ↔
        other ∈ (r.implied.get? keyword).getD [] ∨ other = rule.keyword ∧ keyword ∈ rule.implements := by
    intro r appliesTo
    rw [insert_eq, get?_credited]
    split
    · next hmem => simp [hmem, or_comm]
    · next hnot => simp [hnot]
  have hplaces : ∀ (places : List (Option DataType)) (r : Registry), places ≠ [] →
      (other ∈ ((places.foldl (fun r appliesTo => r.insert appliesTo rule) r).implied.get? keyword).getD [] ↔
        other ∈ (r.implied.get? keyword).getD [] ∨ other = rule.keyword ∧ keyword ∈ rule.implements) := by
    intro places
    induction places with
    | nil => exact fun _ hne => absurd rfl hne
    | cons appliesTo rest ih =>
      intro r _
      rw [List.foldl_cons]
      by_cases hrest : rest = []
      · subst hrest
        exact hinsert r appliesTo
      · rw [ih _ hrest, hinsert, or_assoc, or_self]
  exact hplaces (placesOf types) r (placesOf_ne_nil types)

/-- A keyword that is removed takes care of nothing, and nothing takes care of it. -/
theorem Indexed.mem_implied_remove (h : r.Indexed) (name keyword other : String) :
    other ∈ ((r.remove name).1.implied.get? keyword).getD [] ↔
      other ∈ (r.implied.get? keyword).getD [] ∧ other ≠ name ∧ keyword ≠ name := by
  rw [h.remove_eq]
  dsimp only [forget]
  rw [Table.get?_filterMap, Table.get?_erase]
  by_cases hkeyword : keyword = name
  · simp [hkeyword]
  · rw [if_neg hkeyword]
    cases hnames : r.implied.get? keyword with
    | none => simp
    | some names =>
      have hmem : other ∈ names.erase name ↔ other ∈ names ∧ other ≠ name := by
        rw [(h.credited.nodup hnames).mem_erase_iff, and_comm]
      dsimp only [Option.bind_some, Option.getD_some]
      split
      · next hgone =>
        rw [Bool.and_eq_true, List.isEmpty_iff] at hgone
        rw [hgone.1] at hmem
        exact ⟨nofun, fun hother => hmem.mpr ⟨hother.1, hother.2.1⟩⟩
      · rw [Option.getD_some, hmem]
        exact and_congr_right fun _ => (and_iff_left hkeyword).symm

/-- A name has an entry among the implied ones if it is fixed or something takes care of it. -/
theorem Credited.mem_keys_iff (h : r.Credited) (keyword : String) :
    keyword ∈ r.implied.keys ↔
      keyword ∈ r.fixedImplied ∨ ∃ other, other ∈ (r.implied.get? keyword).getD [] := by
  constructor
  · intro hmem
    obtain ⟨names, hnames⟩ := (Table.mem_keys_iff _ _).mp hmem
    cases names with
    | nil => exact .inl (h.kept hnames)
    | cons other rest =>
      refine .inr ⟨other, ?_⟩
      rw [hnames]
      exact List.mem_cons_self
  · rintro (hfixed | ⟨other, hother⟩)
    · exact h.fixed _ hfixed
    · by_contra hnone
      rw [(Table.get?_eq_none_iff _ _).mpr hnone] at hother
      cases hother

theorem Coherent.custom_eq_none (h : r.Coherent) {keyword : String} (hrule : r.hasRule keyword ≠ true) :
    r.custom.get? keyword = none := by
  rw [hasRule, ne_eq, Table.contains_iff] at hrule
  cases hcustom : r.custom.get? keyword with
  | none => rfl
  | some rule =>
    obtain ⟨-, hname, place, hplace⟩ := (h.custom _ _).mp hcustom
    exact absurd hname (h.listed.keyword_ne hrule hplace)

theorem isKnown_iff (r : Registry) (keyword : String) :
    r.isKnown keyword = true ↔ r.hasRule keyword = true ∨ keyword ∈ r.implied.keys ∨
      keyword ∈ r.nonValidating ∨ keyword ∈ engineKeywords := by
  simp only [isKnown, hasRule, Bool.or_eq_true, Table.contains_iff, List.contains_iff_mem, or_assoc]

end

/-- A registry to begin with: the names that its rules take care of are the fixed ones. -/
structure IsStart (start : Registry) : Prop where
  credited : start.Credited
  fixed : ∀ name ∈ start.implied.keys, name ∈ start.fixedImplied

/-- What each table has after a history that began with a registry. -/
structure Recorded (start : Registry) (history : List Change) (r : Registry) : Prop where
  coherent : r.Coherent
  custom : ∀ name definition, (r.custom.get? name).bind Rule.definition? = some definition ↔
    Registered history name definition
  rules : ∀ name, r.hasRule name = true ↔ (∃ definition, Registered history name definition) ∨
    start.hasRule name = true ∧ Change.removed name ∉ history
  nonValidating : ∀ name, name ∈ r.nonValidating ↔
    name ∈ start.nonValidating ∧ Change.removed name ∉ history
  fixed : ∀ name, name ∈ r.fixedImplied ↔
    name ∈ start.fixedImplied ∧ Change.removed name ∉ history
  implied : ∀ name other, other ∈ (r.implied.get? name).getD [] ↔
    (∃ definition, name ∈ definition.implements ∧ Stands history other definition [other, name]) ∨
      other ∈ (start.implied.get? name).getD [] ∧
        Change.removed other ∉ history ∧ Change.removed name ∉ history
  /-- Only a name that was not known, or no longer, is added. -/
  late : ∀ {name definition}, Change.added name definition ∈ history → ¬StillKnown start history name

theorem withBuiltins_isStart : withBuiltins.IsStart := by
  refine ⟨withBuiltins_coherent.credited, ?_⟩
  unfold withBuiltins
  generalize List.foldl _ empty BuiltinKeyword.groups = r
  exact fun _ => id

theorem withBuiltins_recorded : withBuiltins.Recorded [] withBuiltins where
  coherent := withBuiltins_coherent
  custom := by
    have hnone : withBuiltins.custom.entries.isEmpty = true := by decide +kernel
    intro name definition
    have hcustom : withBuiltins.custom.get? name = none := by
      rw [Table.get?, List.isEmpty_iff.mp hnone]
      rfl
    rw [hcustom]
    exact ⟨nofun, fun h => absurd h not_stands_nil⟩
  rules := by simp [Registered, not_stands_nil]
  nonValidating := by simp
  fixed := by simp
  implied := by simp [not_stands_nil]
  late := nofun

section

variable {start r : Registry} {history : List Change}

/-- **A registry knows a name for one of three reasons**: a custom keyword has it, it was known at the start
    and not removed, or a custom keyword takes care of it. -/
theorem Recorded.isKnown_iff (h : start.Recorded history r) (hstart : start.IsStart) (name : String) :
    r.isKnown name = true ↔
      (∃ definition, Registered history name definition) ∨ StillKnown start history name ∨
        TakenCareOf history name := by
  have hcredited : ∀ {other}, other ∈ (start.implied.get? name).getD [] → name ∈ start.fixedImplied :=
    fun hother => hstart.fixed name ((hstart.credited.mem_keys_iff name).mpr (.inr ⟨_, hother⟩))
  have himplied : name ∈ start.implied.keys ↔ name ∈ start.fixedImplied :=
    ⟨hstart.fixed name, hstart.credited.fixed name⟩
  have hcare : (∃ other definition, name ∈ definition.implements ∧
      Stands history other definition [other, name]) ↔ TakenCareOf history name := Iff.rfl
  rw [r.isKnown_iff, h.rules, h.coherent.credited.mem_keys_iff, h.fixed, h.nonValidating, StillKnown,
    start.isKnown_iff, himplied]
  simp only [h.implied, exists_or, hcare]
  grind

theorem Recorded.added (h : start.Recorded history r) (hstart : start.IsStart) {name : String}
    {definition : KeywordDefinition} {metaValidator : Option Validator} (hunknown : r.isKnown name = false) :
    start.Recorded (history ++ [.added name definition])
      (r.addCustom (.ofCustom name definition metaValidator) definition.types) := by
  have hsame := @foldl_insert_induct
    (fun r' => r'.nonValidating = r.nonValidating ∧ r'.fixedImplied = r.fixedImplied)
    (.ofCustom name definition metaValidator)
    (fun _ _ hr => by rw [insert_eq]; exact hr) (placesOf definition.types) r ⟨rfl, rfl⟩
  have hkept : ∀ {other}, Change.removed other ∉ history ++ [.added name definition] ↔
      Change.removed other ∉ history := by
    intro other
    rw [removed_notMem_concat]
    exact and_iff_left nofun
  have hnone : r.custom.get? name = none := by
    refine h.coherent.custom_eq_none fun hrule => ?_
    rw [(r.isKnown_iff name).mpr (.inl hrule)] at hunknown
    cases hunknown
  constructor
  case coherent => exact h.coherent.addCustom hunknown rfl definition.types
  case custom =>
    intro other definition'
    rw [get?_addCustom, Registered, stands_added, ← Registered, ← h.custom]
    change (if other = name then _ else _ : Option Rule).bind _ = _ ↔ _
    by_cases hother : other = name
    · subst hother
      rw [if_pos rfl, hnone]
      simp [Rule.definition?, Rule.ofCustom, eq_comm]
    · simp [hother]
  case rules =>
    intro other
    rw [h.coherent.hasRule_addCustom hunknown rfl, h.rules, hkept]
    simp only [Registered, stands_added, exists_or, exists_and_left, exists_eq, and_true]
    show _ ∨ other = name ↔ _
    tauto
  case nonValidating =>
    intro other
    rw [hkept, ← h.nonValidating, ← hsame.1]
    rfl
  case fixed =>
    intro other
    rw [hkept, ← h.fixed, ← hsame.2]
    rfl
  case implied =>
    intro keyword other
    rw [mem_implied_addCustom, h.implied, hkept, hkept]
    simp only [stands_added, and_or_left, exists_or]
    show _ ∨ other = name ∧ keyword ∈ definition.implements ↔ _
    have hnew : (∃ definition', keyword ∈ definition'.implements ∧ other = name ∧ definition' = definition) ↔
        other = name ∧ keyword ∈ definition.implements := by
      constructor
      · rintro ⟨_, hmem, hname, rfl⟩
        exact ⟨hname, hmem⟩
      · exact fun ⟨hname, hmem⟩ => ⟨definition, hmem, hname, rfl⟩
    rw [hnew]
    exact or_right_comm
  case late =>
    intro other definition' hmem hknown
    have hbefore : StillKnown start history other := ⟨hknown.1, hknown.2.imp_right hkept.mp⟩
    rcases List.mem_append.mp hmem with hold | hnew
    · exact h.late hold hbefore
    · obtain ⟨rfl, -⟩ := Change.added.inj (List.mem_singleton.mp hnew)
      rw [(h.isKnown_iff hstart other).mpr (.inr (.inl hbefore))] at hunknown
      cases hunknown

theorem Recorded.removed (h : start.Recorded history r) (name : String) :
    start.Recorded (history ++ [.removed name]) (r.remove name).1 := by
  have hremoved := h.coherent.toIndexed.remove_eq name
  have hkept : ∀ {other}, Change.removed other ∉ history ++ [.removed name] ↔
      Change.removed other ∉ history ∧ other ≠ name := by
    intro other
    rw [removed_notMem_concat, ne_eq, Change.removed.injEq]
  constructor
  case coherent => exact h.coherent.remove name
  case custom =>
    intro other definition
    rw [Registered, stands_removed, ← Registered, ← h.custom, hremoved, Table.get?_erase]
    by_cases hother : other = name
    · simp [hother]
    · simp [hother, Ne.symm hother]
  case rules =>
    intro other
    rw [hasRule_remove h.coherent.toIndexed, h.rules, hkept]
    simp only [Registered, stands_removed, List.mem_singleton, exists_and_right]
    tauto
  case nonValidating =>
    intro other
    rw [hkept, ← and_assoc, ← h.nonValidating, hremoved, and_comm]
    exact h.coherent.nonValidating_nodup.mem_erase_iff
  case fixed =>
    intro other
    rw [hkept, ← and_assoc, ← h.fixed, hremoved, and_comm]
    exact h.coherent.credited.fixed_nodup.mem_erase_iff
  case implied =>
    intro keyword other
    rw [h.coherent.toIndexed.mem_implied_remove, h.implied, hkept, hkept]
    simp only [stands_removed, List.mem_cons, List.not_mem_nil, or_false, not_or]
    grind
  case late =>
    intro other definition hmem hknown
    rcases List.mem_append.mp hmem with hold | hnew
    · exact h.late hold ⟨hknown.1, hknown.2.imp_right fun h => (hkept.mp h).1⟩
    · cases List.mem_singleton.mp hnew

end

end Registry

/-! ## Histories of calls -/

namespace Compiler

/-- What a call does to the keywords of a compiler, which is nothing if it is refused. -/
def changes (c : Compiler) : Call → List Change
  | .addKeyword name definition checked =>
    match c.addKeyword name definition checked with
    | .ok _ =>
      [.added name (if definition.keywords.isEmpty then { definition with keywords := [name] } else definition)]
    | .error _ => []
  | .addVocabulary definitions checked =>
    match c.addVocabulary definitions checked with
    | .ok _ => definitions.flatMap fun definition => definition.keywords.map (.added · definition)
    | .error _ => []
  | .removeKeyword name => [.removed name]
  | .addSchema .. | .removeSchema _ | .getSchema _ | .addFormat .. | .compile _ => []

/-- What a sequence of calls does to the keywords of a compiler. -/
def history (c : Compiler) : List Call → List Change
  | [] => []
  | call :: rest => c.changes call ++ (c.perform call).history rest

end Compiler

section

variable {start : Registry} {c : Compiler} {history : List Change}

/-- What a sequence of steps has done is what each of them has. -/
theorem foldlM_recorded {ε α β : Type} {P : List Change → β → Prop} {f : β → α → Except ε β}
    {changes : α → List Change} {xs : List α}
    (hstep : ∀ b x b' history, P history b → f b x = .ok b' → P (history ++ changes x) b') {b b' : β}
    (hb : P history b) (h : xs.foldlM f b = .ok b') : P (history ++ xs.flatMap changes) b' := by
  induction xs generalizing b history with
  | nil =>
    obtain rfl := Except.ok.inj h
    rwa [List.flatMap_nil, List.append_nil]
  | cons x rest ih =>
    rw [List.foldlM_cons] at h
    obtain ⟨b₁, hb₁, hrest⟩ := bind_eq_ok.mp h
    rw [List.flatMap_cons, ← List.append_assoc]
    exact ih (hstep b x b₁ history hb hb₁) hrest

namespace Compiler

theorem register_recorded {r r' : Registry} {name : String} {definition : KeywordDefinition} {checked : Bool}
    (hstart : start.IsStart) (hr : start.Recorded history r)
    (h : c.register r name definition checked = .ok r') :
    start.Recorded (history ++ [.added name definition]) r' := by
  obtain ⟨hunknown, metaValidator, rfl⟩ := register_eq_ok h
  exact hr.added hstart hunknown

theorem registerAll_recorded {r r' : Registry} {definition : KeywordDefinition} {checked : Bool}
    (hstart : start.IsStart) (hr : start.Recorded history r)
    (h : c.registerAll checked r definition = .ok r') :
    start.Recorded (history ++ definition.keywords.map (.added · definition)) r' := by
  unfold registerAll at h
  split at h
  · cases h
  · rw [List.map_eq_flatMap]
    exact foldlM_recorded (P := start.Recorded) (fun _ _ _ _ hb hb' => register_recorded hstart hb hb') hr h

/-- **A call does to the tables what the history says.** -/
theorem perform_recorded (hstart : start.IsStart) (hc : start.Recorded history c.registry) (call : Call) :
    start.Recorded (history ++ c.changes call) (c.perform call).registry := by
  cases call with
  | addKeyword name definition checked =>
    unfold perform changes
    dsimp only
    cases hadd : c.addKeyword name definition checked with
    | error e => simpa [settle] using hc
    | ok c' =>
      obtain ⟨registry, hregistry, heq⟩ := bind_eq_ok.mp hadd
      obtain rfl := Except.ok.inj heq
      exact register_recorded hstart hc hregistry
  | addVocabulary definitions checked =>
    unfold perform changes
    dsimp only
    cases hadd : c.addVocabulary definitions checked with
    | error e => simpa [settle] using hc
    | ok c' =>
      obtain ⟨registry, hregistry, rfl⟩ := addVocabulary_eq_ok hadd
      exact foldlM_recorded (P := start.Recorded)
        (fun _ _ _ _ hb hb' => registerAll_recorded hstart hb hb') hc hregistry
  | removeKeyword name =>
    unfold perform changes
    dsimp only
    rw [removeKeyword_eq]
    exact hc.removed name
  | addSchema schema key =>
    rw [show c.changes _ = [] from rfl, List.append_nil]
    refine settle_induct (P := fun c => start.Recorded history c.registry) hc fun c' hadd => ?_
    obtain ⟨normalized, hadd⟩ := exists_of_map_fst hadd
    exact addSchema_eq_ok hadd ▸ hc
  | removeSchema key =>
    rw [show c.changes _ = [] from rfl, List.append_nil]
    exact c.removeSchema_registry key ▸ hc
  | getSchema key =>
    rw [show c.changes _ = [] from rfl, List.append_nil]
    refine settle_induct (P := fun c => start.Recorded history c.registry) hc fun c' hget => ?_
    obtain ⟨_, hget⟩ := exists_of_map_fst hget
    exact getSchema_registry hget ▸ hc
  | addFormat name format =>
    rw [show c.changes _ = [] from rfl, List.append_nil]
    exact hc
  | compile schema =>
    rw [show c.changes _ = [] from rfl, List.append_nil]
    exact hc

/-- **So does every sequence of calls.** -/
theorem run_recorded (hstart : start.IsStart) (hc : start.Recorded history c.registry) (calls : List Call) :
    start.Recorded (history ++ c.history calls) (c.run calls).registry := by
  induction calls generalizing c history with
  | nil =>
    rw [Compiler.history, List.append_nil]
    exact hc
  | cons call rest ih =>
    rw [Compiler.history, ← List.append_assoc]
    exact ih (perform_recorded hstart hc call)

theorem new_run_recorded (options : Options) (calls : List Call) :
    Registry.withBuiltins.Recorded ((new options).history calls) ((new options).run calls).registry :=
  run_recorded (c := new options) Registry.withBuiltins_isStart Registry.withBuiltins_recorded calls

end Compiler

end

/-! ## What a compiler says of a keyword -/

namespace Compiler

theorem getKeyword_eq_builtin_iff {c : Compiler} {name : String} :
    c.getKeyword name = .builtin ↔
      (c.registry.custom.get? name).bind Rule.definition? = none ∧ c.registry.isKnown name = true := by
  unfold getKeyword
  cases (c.registry.custom.get? name).bind Rule.definition? with
  | some definition => exact ⟨nofun, nofun⟩
  | none =>
    dsimp only
    cases c.registry.isKnown name with
    | true => exact ⟨fun _ => ⟨rfl, rfl⟩, fun _ => rfl⟩
    | false => exact ⟨nofun, nofun⟩

theorem getKeyword_eq_unknown_iff {c : Compiler} {name : String} :
    c.getKeyword name = .unknown ↔
      (c.registry.custom.get? name).bind Rule.definition? = none ∧ c.registry.isKnown name = false := by
  unfold getKeyword
  cases (c.registry.custom.get? name).bind Rule.definition? with
  | some definition => exact ⟨nofun, nofun⟩
  | none =>
    dsimp only
    cases c.registry.isKnown name with
    | true => exact ⟨nofun, nofun⟩
    | false => exact ⟨fun _ => ⟨rfl, rfl⟩, fun _ => rfl⟩

/-- **What a compiler says of a keyword after a sequence of calls**: a name that no custom keyword has is called
    built in also if nothing but a custom keyword takes care of it. -/
theorem getKeyword_after (options : Options) (calls : List Call) (name : String) :
    let c := (new options).run calls
    let history := (new options).history calls
    (∀ definition, c.getKeyword name = .custom definition ↔ Registered history name definition) ∧
    (c.getKeyword name = .builtin ↔ (∀ definition, ¬Registered history name definition) ∧
      (StillKnown .withBuiltins history name ∨ TakenCareOf history name)) ∧
    (c.getKeyword name = .unknown ↔ (∀ definition, ¬Registered history name definition) ∧
      ¬(StillKnown .withBuiltins history name ∨ TakenCareOf history name)) := by
  intro c history
  have hrecorded := new_run_recorded options calls
  have hknown := hrecorded.isKnown_iff Registry.withBuiltins_isStart name
  have hnone : (c.registry.custom.get? name).bind Rule.definition? = none ↔
      ∀ definition, ¬Registered history name definition := by
    rw [Option.eq_none_iff_forall_ne_some]
    exact forall_congr' fun definition => not_congr (hrecorded.custom name definition)
  refine ⟨fun definition => ?_, ?_, ?_⟩
  · rw [getKeyword_eq_custom_iff, ← Option.bind_eq_some_iff]
    exact hrecorded.custom name definition
  · rw [getKeyword_eq_builtin_iff, hnone, hknown]
    exact and_congr_right fun hnot => or_iff_right fun ⟨definition, h⟩ => hnot definition h
  · rw [getKeyword_eq_unknown_iff, hnone, ← Bool.not_eq_true, hknown]
    exact and_congr_right fun hnot => not_congr (or_iff_right fun ⟨definition, h⟩ => hnot definition h)

end Compiler

/-- Draft-07 knows the name, and it was neither removed, which the keywords of the engine cannot be, nor ever
    added as that of a custom keyword. -/
structure StillBuiltin (history : List Change) (name : String) : Prop where
  recognized : Registry.withBuiltins.isKnown name = true
  kept : name ∈ engineKeywords ∨ Change.removed name ∉ history
  notAdded : ∀ definition, Change.added name definition ∉ history

/-- Nothing that is still built in is the name of a custom keyword. -/
theorem StillBuiltin.not_registered {history : List Change} {name : String} (h : StillBuiltin history name)
    (definition : KeywordDefinition) : ¬Registered history name definition :=
  fun hregistered => h.notAdded definition hregistered.mem

/-- **A keyword is classified by what has become of it**, after whatever calls, refused ones among them.  It is
    custom, with its definition, just as long as a custom keyword of that name is registered.  Unless it is
    known for nothing but that a custom keyword takes care of it, it is built in just if it is still one of
    draft-07, and unknown otherwise. -/
theorem keyword_told_by_history (options : Options) (calls : List Compiler.Call) (name : String) :
    let c := (Compiler.new options).run calls
    let history := (Compiler.new options).history calls
    (∀ definition, c.getKeyword name = .custom definition ↔ Registered history name definition) ∧
    ((TakenCareOf history name →
        (∃ definition, Registered history name definition) ∨ StillBuiltin history name) →
      (c.getKeyword name = .builtin ↔ StillBuiltin history name) ∧
      (c.getKeyword name = .unknown ↔
        (∀ definition, ¬Registered history name definition) ∧ ¬StillBuiltin history name)) := by
  intro c history
  obtain ⟨hcustom, hbuiltin, hunknown⟩ := Compiler.getKeyword_after options calls name
  have hstill : StillKnown .withBuiltins history name ↔ StillBuiltin history name :=
    ⟨fun h => ⟨h.1, h.2, fun _ hmem => (Compiler.new_run_recorded options calls).late hmem h⟩,
      fun h => ⟨h.recognized, h.kept⟩⟩
  rw [hstill] at hbuiltin hunknown
  refine ⟨hcustom, fun hcare => ?_⟩
  have hother : (∀ definition, ¬Registered history name definition) →
      (StillBuiltin history name ∨ TakenCareOf history name ↔ StillBuiltin history name) := by
    intro hnone
    refine ⟨fun h => ?_, .inl⟩
    rcases h with h | h
    · exact h
    · exact (hcare h).resolve_left fun ⟨definition, h⟩ => hnone definition h
  constructor
  · rw [hbuiltin, and_congr_right hother]
    exact and_iff_right_of_imp StillBuiltin.not_registered
  · rw [hunknown]
    exact and_congr_right fun hnone => not_congr (hother hnone)

/-- Calls that add a keyword and remove one of draft-07 and one of the engine. -/
def mixedCalls : List Compiler.Call :=
  [.addKeyword "blank" blank true, .removeKeyword "items", .removeKeyword "type"]

theorem mixedCalls_history : (Compiler.new {}).history mixedCalls =
    [.added "blank" blank, .removed "items", .removed "type"] := by
  have hadded : ((Compiler.new {}).addKeyword "blank" blank true).toOption.isSome = true := by decide +kernel
  cases hc : (Compiler.new {}).addKeyword "blank" blank true with
  | error e =>
    rw [hc] at hadded
    cases hadded
  | ok c =>
    simp only [mixedCalls, Compiler.history, Compiler.changes, hc]
    rfl

/-- The keyword is custom, the removed one unknown, and one that the custom keyword takes care of is still that
    of draft-07. -/
theorem mixed_told :
    let c := (Compiler.new {}).run mixedCalls
    c.getKeyword "blank" = .custom blank ∧ c.getKeyword "items" = .unknown ∧
      c.getKeyword "additionalItems" = .builtin := by
  intro c
  have hblank := (keyword_told_by_history {} mixedCalls "blank").1 blank
  have hitems := (keyword_told_by_history {} mixedCalls "items").2
  have hadditional := (keyword_told_by_history {} mixedCalls "additionalItems").2
  rw [mixedCalls_history] at hblank hitems hadditional
  refine ⟨hblank.mpr ⟨[], [.removed "items", .removed "type"], rfl, by simp⟩, ?_, ?_⟩
  · refine (hitems ?_).2.mpr ⟨?_, ?_⟩
    · rintro ⟨other, definition, himplements, hstands⟩
      obtain ⟨-, rfl⟩ : other = "blank" ∧ definition = blank := by simpa using hstands.mem
      exact absurd himplements (by decide)
    · intro definition hregistered
      simpa using hregistered.mem
    · intro hbuiltin
      simpa [engineKeywords] using hbuiltin.kept
  · have hbuiltin : StillBuiltin [.added "blank" blank, .removed "items", .removed "type"]
        "additionalItems" := ⟨by decide +kernel, by simp, by simp⟩
    exact (hadditional fun _ => .inr hbuiltin).1.mpr hbuiltin

/-- A removed keyword of the engine is still called built in, and so is a name that draft-07 does not know and
    that a custom keyword takes care of. -/
theorem called_builtin_otherwise :
    let c := (Compiler.new {}).run mixedCalls
    (Compiler.new {}).history mixedCalls = [.added "blank" blank, .removed "items", .removed "type"] ∧
      c.getKeyword "type" = .builtin ∧
      Registry.withBuiltins.isKnown "nil" = false ∧ c.getKeyword "nil" = .builtin := by
  have htables : (["type", "nil"].all fun name =>
      ((Compiler.new {}).run mixedCalls).registry.isKnown name &&
        (((Compiler.new {}).run mixedCalls).registry.custom.get? name).isNone) = true := by decide +kernel
  have hbuiltin : ∀ name ∈ ["type", "nil"],
      ((Compiler.new {}).run mixedCalls).getKeyword name = .builtin := by
    intro name hname
    have hboth := List.all_eq_true.mp htables name hname
    rw [Bool.and_eq_true, Option.isNone_iff_eq_none] at hboth
    rw [Compiler.getKeyword_eq_builtin_iff, hboth.2]
    exact ⟨rfl, hboth.1⟩
  exact ⟨mixedCalls_history, hbuiltin "type" (by simp), by decide +kernel, hbuiltin "nil" (by simp)⟩

end JsonSchema
