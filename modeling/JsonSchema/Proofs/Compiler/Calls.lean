import JsonSchema.Proofs.Registry.Frame

/-!
# Sequences of calls

A compiler is called again and again, and a call that is refused leaves it as it is (`Compiler.perform`).
It keeps the validators of documents that were asked for; each call that changes what a document compiles
to forgets them all.  `Compiler.Current` says that what is kept is what compiling would give now.  One lemma
a call says that it keeps this, and from these it follows for every sequence of calls (`run_current`).

Main statement: `getSchema_current`.
-/

set_option autoImplicit false

namespace JsonSchema

namespace Compiler

/-! ## Calls -/

/-- What can be asked of a compiler, again and again. -/
inductive Call where
  | addKeyword (name : String) (definition : KeywordDefinition) (checked : Bool)
  | addVocabulary (definitions : List KeywordDefinition) (checked : Bool)
  | removeKeyword (name : String)
  | addSchema (schema : Json) (key : Option String)
  | removeSchema (key : String)
  | getSchema (key : String)
  | addFormat (name : String) (format : Format)
  | compile (schema : Json)

/-- The compiler that a call leaves, which is the old one if the call was refused. -/
def settle (c : Compiler) : Except SchemaError Compiler → Compiler
  | .ok c' => c'
  | .error _ => c

/-- The compiler after a call. -/
def perform (c : Compiler) : Call → Compiler
  | .addKeyword name definition checked => c.settle (c.addKeyword name definition checked)
  | .addVocabulary definitions checked => c.settle (c.addVocabulary definitions checked)
  | .removeKeyword name => c.removeKeyword name
  | .addSchema schema key => c.settle ((c.addSchema schema key).map Prod.fst)
  | .removeSchema key => (c.removeSchema key).1
  | .getSchema key => c.settle ((c.getSchema key).map Prod.fst)
  | .addFormat name format => c.addFormat name format
  | .compile _ => c

/-- The compiler after a sequence of calls. -/
def run (c : Compiler) (calls : List Call) : Compiler := calls.foldl perform c

section

variable {options : Options} {c c' : Compiler}

/-- What holds of a compiler, and of what the call makes of it if it succeeds, holds after the call. -/
theorem settle_induct {P : Compiler → Prop} {x : Except SchemaError Compiler} (h : P c)
    (hok : ∀ c', x = .ok c' → P c') : P (c.settle x) := by
  cases x with
  | error e => exact h
  | ok c' => exact hok c' rfl

theorem exists_of_map_fst {α : Type} {x : Except SchemaError (Compiler × α)}
    (h : x.map Prod.fst = .ok c') : ∃ a, x = .ok (c', a) := by
  cases x with
  | error e => cases h
  | ok r =>
    obtain rfl : r.1 = c' := Except.ok.inj h
    exact ⟨r.2, rfl⟩

/-- A call makes of a compiler what a successful one can. -/
theorem Reached.perform (h : Reached options c) (call : Call) : Reached options (c.perform call) := by
  cases call with
  | addKeyword name definition checked => exact settle_induct h fun _ => h.addKeyword
  | addVocabulary definitions checked => exact settle_induct h fun _ => h.addVocabulary
  | removeKeyword name => exact h.removeKeyword name
  | addSchema schema key =>
    refine settle_induct h fun _ hadd => ?_
    obtain ⟨_, hadd⟩ := exists_of_map_fst hadd
    exact h.addSchema hadd
  | removeSchema key => exact h.removeSchema key
  | getSchema key =>
    refine settle_induct h fun _ hget => ?_
    obtain ⟨_, hget⟩ := exists_of_map_fst hget
    exact h.getSchema hget
  | addFormat name format => exact h.addFormat name format
  | compile schema => exact h

theorem Reached.run (h : Reached options c) (calls : List Call) : Reached options (c.run calls) := by
  induction calls generalizing c with
  | nil => exact h
  | cons call rest ih => exact ih (h.perform call)

/-! ## Validators that are kept -/

/-- Each validator that is kept is that of the document under its key, as it would be compiled now. -/
def Current (c : Compiler) : Prop :=
  ∀ key validator, c.compiled.get? key = some validator →
    ∃ schema, c.documents.get? key = some schema ∧ c.compile schema = .ok validator

/-- A compiler that keeps nothing keeps nothing outdated. -/
theorem Current.of_empty (h : c.compiled = .empty) : c.Current := by
  intro key validator hkept
  rw [h] at hkept
  cases hkept

theorem addVocabulary_eq_ok {definitions : List KeywordDefinition} {checked : Bool}
    (h : c.addVocabulary definitions checked = .ok c') :
    ∃ registry, definitions.foldlM (c.registerAll checked) c.registry = .ok registry ∧
      c' = { c with registry, compiled := .empty } := by
  obtain ⟨registry, hregistry, heq⟩ := bind_eq_ok.mp h
  exact ⟨registry, hregistry, (Except.ok.inj heq).symm⟩

/-- What is kept is forgotten if the registry changes, which it does only if it held the keyword. -/
theorem Current.removeKeyword (h : c.Current) (hc : c.registry.Coherent) (name : String) :
    (c.removeKeyword name).Current := by
  rw [removeKeyword_eq]
  cases hholds : c.registry.holds name with
  | true => exact .of_empty rfl
  | false =>
    rw [hc.remove_of_not_holds hholds]
    exact h

theorem Current.removeSchema (h : c.Current) (key : String) : (c.removeSchema key).1.Current := by
  unfold Compiler.removeSchema
  cases normalizeId key with
  | error e => exact h
  | ok normalized =>
    dsimp only
    cases c.documents.get? normalized with
    | none => exact h
    | some schema => exact .of_empty rfl

/-- What a key leads to: what is kept, or else what its document compiles to. -/
theorem getSchema_eq (c : Compiler) (key : String) :
    c.getSchema key =
      match normalizeId key with
      | .error e => .error e
      | .ok normalized =>
        match c.compiled.get? normalized, c.documents.get? normalized with
        | some validator, _ => .ok (c, some validator)
        | none, none => .ok (c, none)
        | none, some schema => (c.compile schema).map fun validator =>
          ({ c with compiled := c.compiled.set normalized validator }, some validator) := by
  unfold getSchema
  cases normalizeId key with
  | error e => rfl
  | ok normalized =>
    simp only [bind, Except.bind]
    cases c.compiled.get? normalized with
    | some validator => rfl
    | none =>
      cases c.documents.get? normalized with
      | none => rfl
      | some schema =>
        dsimp only
        cases c.compile schema <;> rfl

/-- A validator that is kept from now on was compiled just now. -/
theorem Current.getSchema (h : c.Current) {key : String} {found : Option Validator}
    (hget : c.getSchema key = .ok (c', found)) : c'.Current := by
  rw [getSchema_eq] at hget
  split at hget
  · cases hget
  · next normalized _ =>
    split at hget
    · obtain ⟨rfl, -⟩ := Prod.mk.inj (Except.ok.inj hget)
      exact h
    · obtain ⟨rfl, -⟩ := Prod.mk.inj (Except.ok.inj hget)
      exact h
    · next schema _ hschema =>
      cases hcompile : c.compile schema with
      | error e =>
        rw [hcompile] at hget
        cases hget
      | ok compiled =>
        rw [hcompile] at hget
        obtain ⟨rfl, -⟩ := Prod.mk.inj (Except.ok.inj hget)
        intro key' validator hkept
        have hkept : (c.compiled.set normalized compiled).get? key' = some validator := hkept
        rw [Table.get?_set] at hkept
        split at hkept
        · next heq =>
          obtain rfl := Option.some.inj hkept
          exact ⟨schema, heq ▸ hschema, hcompile⟩
        · exact h key' validator hkept

/-- **No call leaves a validator behind that is not current.** -/
theorem Current.perform (h : c.Current) (hc : c.registry.Coherent) (call : Call) :
    (c.perform call).Current := by
  cases call with
  | addKeyword name definition checked =>
    refine settle_induct h fun c' hadd => ?_
    obtain ⟨_, registry, -, -, rfl⟩ := addKeyword_eq_ok hadd
    exact .of_empty rfl
  | addVocabulary definitions checked =>
    refine settle_induct h fun c' hadd => ?_
    obtain ⟨registry, -, rfl⟩ := addVocabulary_eq_ok hadd
    exact .of_empty rfl
  | removeKeyword name => exact h.removeKeyword hc name
  | addSchema schema key =>
    refine settle_induct h fun c' hadd => ?_
    obtain ⟨normalized, hadd⟩ := exists_of_map_fst hadd
    obtain rfl := addSchema_eq_ok hadd
    exact .of_empty rfl
  | removeSchema key => exact h.removeSchema key
  | getSchema key =>
    refine settle_induct h fun c' hget => ?_
    obtain ⟨_, hget⟩ := exists_of_map_fst hget
    exact h.getSchema hget
  | addFormat name format => exact .of_empty rfl
  | compile schema => exact h

/-- **After every sequence of calls, what is kept is current.** -/
theorem run_current (options : Options) (calls : List Call) : ((new options).run calls).Current := by
  have hrun : ∀ calls (c : Compiler), Reached options c → c.Current → (c.run calls).Current := by
    intro calls
    induction calls with
    | nil => exact fun c _ h => h
    | cons call rest ih => exact fun c hc h => ih _ (hc.perform call) (h.perform hc.coherent call)
  exact hrun calls _ .new (.of_empty rfl)

/-- Where nothing outdated is kept, the key of a document leads to what the document compiles to. -/
theorem Current.getSchema_document (h : c.Current) {key normalized : String} {document : Json}
    (hkey : normalizeId key = .ok normalized) (hdocument : c.documents.get? normalized = some document) :
    (c.getSchema key).map Prod.snd = (c.compile document).map some := by
  rw [getSchema_eq, hkey]
  dsimp only
  cases hkept : c.compiled.get? normalized with
  | some validator =>
    obtain ⟨schema, hschema, hcompile⟩ := h normalized validator hkept
    obtain rfl := Option.some.inj (hdocument.symm.trans hschema)
    dsimp only
    rw [hcompile]
    rfl
  | none =>
    rw [hdocument]
    dsimp only
    cases c.compile document <;> rfl

end

end Compiler

/-- **A key leads to what its document compiles to now**, after whatever calls, refused ones among them: no
    document, no validator; and else what compiling the document gives under the present registry,
    formats and documents.  A key that is no URI reference is refused. -/
theorem getSchema_current (options : Options) (calls : List Compiler.Call) (key : String) :
    let c := (Compiler.new options).run calls
    match normalizeId key with
    | .error e => c.getSchema key = .error e
    | .ok normalized =>
      match c.documents.get? normalized with
      | none => (c.getSchema key).map Prod.snd = .ok none
      | some schema => (c.getSchema key).map Prod.snd = (c.compile schema).map some := by
  intro c
  have hcurrent : c.Current := Compiler.run_current options calls
  cases hkey : normalizeId key with
  | error e =>
    rw [Compiler.getSchema_eq, hkey]
  | ok normalized =>
    dsimp only
    cases hdocument : c.documents.get? normalized with
    | some schema => exact hcurrent.getSchema_document hkey hdocument
    | none =>
      rw [Compiler.getSchema_eq, hkey]
      dsimp only
      cases hkept : c.compiled.get? normalized with
      | some validator =>
        obtain ⟨schema, hschema, -⟩ := hcurrent normalized validator hkept
        cases hdocument.symm.trans hschema
      | none =>
        rw [hdocument]
        rfl

end JsonSchema
