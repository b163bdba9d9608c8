import JsonSchema.Proofs.Reference.RootId

/-!
# Each `$id` counts once

Where joining an `$id` to a base that it is part of changes nothing (`Environment.Settled`), the root,
lowering, the index and the tokens of a pointer count each `$id` once (`ids_joined_once`).  An `$id` with
a folder in it is not like that: `relative_id_joined_twice` has the folder twice.
-/

set_option autoImplicit false

namespace JsonSchema

/-- **Each `$id` is joined once, where joining it once more changes nothing.**  What lowering comes to in a
    document has one base, the URI of the document joined with each `$id` on the way; lowering hands this
    base to its reference, and asks for nothing else; the index files under the same bases; and the
    root's `$id` may as well be written in its absolute form. -/
theorem ids_joined_once {s : Surroundings} {schema : Json} {base : Uri} {documents : Documents}
    (hbase : schemaBase schema defaultBase = .ok base)
    (hdocuments : Documents.visibleFrom schema base s.cache = .ok documents)
    (hnames : (s.among documents).NamesBuiltins) (hsettled : (s.among documents).Settled schema base) :
    (∀ document uri path members handed,
      (s.among documents).Meets schema base (some (document, uri, path)) members handed →
        (∀ b, Documents.Stands document uri path (.obj members) b ↔ b = handed) ∧
        Documents.FiledByPlace document uri) ∧
    (∀ documents' : Documents,
      (∀ place members handed rule, (s.among documents).Meets schema base place members handed →
        (s.among documents).Reads members rule → rule.implementation = .builtin .ref →
        documents'.resolve handed (rule.reference members) =
          documents.resolve handed (rule.reference members)) →
      ∀ budget, lowerSchema (s.among documents') budget schema ⟨"#", "", 0, base, 0⟩ =
        lowerSchema (s.among documents) budget schema ⟨"#", "", 0, base, 0⟩) ∧
    (s.registry.BuiltinOnly → ∀ members members' uri, schema = .obj members →
      AbsoluteForm members members' uri → compileSchema s (.obj members') = compileSchema s schema) := by
  refine ⟨fun document uri path members handed hmeets => ⟨fun b => ?_, ?_⟩, ?_, ?_⟩
  · have hstands := hmeets.stands hsettled _ rfl
    constructor
    · exact fun h => (hstands.unique h).2
    · rintro rfl
      exact hstands
  · exact Documents.filedByPlace (hmeets.document_settled hsettled _ rfl) fun b w => hsettled.names hmeets
  · intro documents' hresolve budget
    have hmeets : (s.among documents).MeetsAt schema base schema ⟨"#", "", 0, base, 0⟩ :=
      fun ms handed hms hhanded => ⟨_, .root hms hhanded⟩
    refine @lowerSchema_among (s.among documents) ((s.among documents).MeetsAt schema base) documents'
      (fun hmeets hb s at' => hmeets.handed hnames hb) ?_ budget _ _ hmeets
    intro members position b rule hmeets hb hreads hrule
    obtain ⟨place, hplace⟩ := hmeets members b rfl hb
    exact hresolve place members b rule hplace hreads hrule
  · rintro hbuiltin members members' uri rfl habsolute
    obtain ⟨id, hid, hfirst, -⟩ := habsolute.relative
    obtain rfl : uri.withoutFragment = base := by
      rw [schemaBase, hid] at hbase
      dsimp only at hbase
      rw [hfirst] at hbase
      exact Except.ok.inj hbase
    refine compileSchema_absoluteForm habsolute hbuiltin fun documents' hdocuments' => ?_
    rw [hdocuments] at hdocuments'
    obtain rfl := Except.ok.inj hdocuments'
    exact hsettled

/-! ## One document with one reference -/

/-- Numbers, through a reference. -/
def numbered : List (String × Json) :=
  [("$id", "/a.json"), ("$ref", "#/definitions/n"),
    ("definitions", .obj [("n", .obj [("type", "number")])])]

/-- The URI of `numbered`. -/
def numberedUri : Uri := { defaultBase with path := .segments ["a.json".toList] }

theorem numbered_withoutIds : ∀ m ∈ numbered, m.2.WithoutIds := by
  simp [numbered, withoutIds_obj, withoutIds_str, List.lookup_cons]

/-- The URI of the reference in `numbered`. -/
def numberedInner : Uri := { numberedUri with fragment := some "/definitions/n".toList }

/-- What the texts in `numbered` are read as. -/
theorem numbered_reads :
    schemaBase (.obj numbered) defaultBase = .ok numberedUri ∧
    schemaBase (.obj numbered) numberedUri = .ok numberedUri ∧
    resolveUri defaultBase "/a.json" = .ok numberedUri ∧
    resolveUri numberedUri "/a.json" = .ok numberedUri ∧
    resolveUri numberedUri "#/definitions/n" = .ok numberedInner ∧
    Percent.decode? "/definitions/n".toList = some "/definitions/n".toList ∧
    Pointer.parse? (String.ofList "/definitions/n".toList) = some ["definitions", "n"] := by
  refine ⟨eq_ok_of_toOption ?_, eq_ok_of_toOption ?_, eq_ok_of_toOption ?_, eq_ok_of_toOption ?_,
    eq_ok_of_toOption ?_, ?_, ?_⟩ <;> decide +kernel

theorem numbered_again : schemaBase (.obj numbered) numberedUri = .ok numberedUri := numbered_reads.2.1

theorem numbered_joined : resolveUri numberedUri "#/definitions/n" = .ok numberedInner :=
  numbered_reads.2.2.2.2.1

/-- What references from `numbered` can lead to. -/
def numberedDocuments : Documents :=
  (Table.empty.set numberedUri.text (.obj numbered)).set numberedUri.text (.obj numbered)

theorem numbered_filed :
    Documents.visibleFrom (.obj numbered) numberedUri .empty = .ok numberedDocuments := by
  have hjoined : resolveUri numberedUri.withoutFragment "/a.json" = .ok numberedUri :=
    numbered_reads.2.2.2.1
  have hadd : Documents.add .empty numberedUri.withoutFragment.text numberedUri.withoutFragment
      (.obj numbered) = _ := add_root rfl hjoined rfl .empty
  have hcache : Documents.ofCache .empty = .ok .empty := rfl
  rw [show numberedUri.withoutFragment = numberedUri from rfl,
    Documents.indexMembers_of_withoutIds _ _ _ numbered_withoutIds] at hadd
  rw [Documents.visibleFrom, hcache]
  simp only [bind, Except.bind]
  rw [hadd, numberedDocuments]

theorem numbered_document : numberedDocuments.get? numberedUri.text = some (.obj numbered) := by
  simp [numberedDocuments, Table.get?_set]

theorem numbered_finds {document : Json} {uri : Uri} {path : List Nat} {target : Target}
    (h : numberedDocuments.Finds numberedUri "#/definitions/n" document uri path target) :
    document = .obj numbered ∧ uri = numberedUri ∧ target.schema = .obj [("type", "number")] ∧
      target.base = numberedUri := by
  obtain ⟨joined, hjoined, rfl, hfiled⟩ := h.filed
  obtain rfl := Except.ok.inj (Eq.trans numbered_joined.symm hjoined)
  have hdocument := Option.some.inj (Eq.trans numbered_document.symm hfiled)
  obtain ⟨-, -, -, -, -, hdecoded, htokens⟩ := numbered_reads
  have hresolved : numberedDocuments.resolve numberedUri "#/definitions/n" = _ :=
    Documents.resolve_pointer numbered_joined rfl numbered_document hdecoded htokens rfl
  rw [h.resolved] at hresolved
  obtain rfl := Except.ok.inj hresolved
  exact ⟨hdocument.symm, rfl, rfl, rfl⟩

/-- Documents among which the keywords of draft-07 are lowered. -/
def numberedEnvironment : Environment := Surroundings.plain.among numberedDocuments

/-- Lowering `numbered` comes to itself and to the schema that it refers to. -/
theorem numbered_meets {place : Option (Json × Uri × List Nat)} {members : List (String × Json)}
    {handed : Uri} (h : numberedEnvironment.Meets (.obj numbered) numberedUri place members handed) :
    handed = numberedUri ∧ (∀ p ∈ place, p.1 = .obj numbered ∧ p.2.1 = numberedUri) ∧
      (members = numbered ∨ members = [("type", .str "number")]) := by
  have hbuiltin : numberedEnvironment.registry.BuiltinOnly := Registry.withBuiltins_builtinOnly
  have hrefers : numberedEnvironment.registry.hasRule "$ref" = true := Registry.withBuiltins_refers
  induction h with
  | root hroot hhanded =>
    obtain rfl := Except.ok.inj (Eq.trans numbered_again.symm hhanded)
    cases hroot
    exact ⟨rfl, by rintro p ⟨⟩; exact ⟨rfl, rfl⟩, .inl rfl⟩
  | applied hmeets hreads hrule happlies hway hhanded ih =>
    obtain ⟨-, -, rfl | rfl⟩ := ih
    · obtain rfl := hbuiltin.reads_ref hrefers rfl hreads
      cases hrule
      exact happlies.elim
    · exact (hbuiltin.not_reads_type hreads).elim
  | referred hmeets hreads hrule hfinds htarget hhanded ih =>
    obtain ⟨rfl, -, rfl | rfl⟩ := ih
    · obtain rfl := hbuiltin.reads_ref hrefers rfl hreads
      obtain ⟨rfl, rfl, hschema, hbase⟩ := numbered_finds hfinds
      rw [hschema, hbase] at hhanded
      rw [hschema] at htarget
      cases htarget
      obtain rfl := Except.ok.inj hhanded
      exact ⟨rfl, by rintro p ⟨⟩; exact ⟨rfl, rfl⟩, .inr rfl⟩
    · exact (hbuiltin.not_reads_type hreads).elim
  | expanded hmeets hreads hrule =>
    obtain ⟨k, rfl⟩ := hbuiltin.reads hreads
    cases hrule

/-- What a reference that lowering `numbered` comes to finds. -/
theorem numbered_referred {place : Option (Json × Uri × List Nat)} {members : List (String × Json)}
    {handed : Uri} {rule : Rule}
    (h : numberedEnvironment.Meets (.obj numbered) numberedUri place members handed)
    (hreads : numberedEnvironment.Reads members rule) :
    handed = numberedUri ∧ rule.reference members = "#/definitions/n" := by
  have hbuiltin : numberedEnvironment.registry.BuiltinOnly := Registry.withBuiltins_builtinOnly
  have hrefers : numberedEnvironment.registry.hasRule "$ref" = true := Registry.withBuiltins_refers
  obtain ⟨rfl, -, rfl | rfl⟩ := numbered_meets h
  · obtain rfl := hbuiltin.reads_ref hrefers rfl hreads
    exact ⟨rfl, rfl⟩
  · exact (hbuiltin.not_reads_type hreads).elim

theorem numbered_settled : numberedEnvironment.Settled (.obj numbered) numberedUri where
  start := numbered_again
  document hmeets hreads _ hfinds := by
    obtain ⟨rfl, href⟩ := numbered_referred hmeets hreads
    rw [href] at hfinds
    obtain ⟨rfl, rfl, -⟩ := numbered_finds hfinds
    exact numbered_again
  target hmeets hreads _ hfinds := by
    obtain ⟨rfl, href⟩ := numbered_referred hmeets hreads
    rw [href] at hfinds
    obtain ⟨-, -, hschema, hbase⟩ := numbered_finds hfinds
    rw [hschema, hbase]
    rfl
  maps hmeets hm hname := by
    obtain ⟨-, -, rfl | rfl⟩ := numbered_meets hmeets
    · simp only [numbered, List.mem_cons, Prod.mk.injEq, List.not_mem_nil] at hm
      obtain ⟨-, ⟨⟩⟩ | ⟨-, ⟨⟩⟩ | ⟨-, ⟨⟩⟩ | h := hm
      · rfl
      · exact h.elim
    · simp at hm
  names hmeets hbelow := by
    obtain ⟨-, hplace, -⟩ := numbered_meets hmeets
    obtain ⟨rfl, rfl⟩ := hplace _ rfl
    intro id uri hid
    rw [hbelow.withoutIds numbered_withoutIds _ (.here _)] at hid
    cases hid
  spelled hmeets hreads _ hjoined _ := by
    obtain ⟨rfl, href⟩ := numbered_referred hmeets hreads
    rw [href] at hjoined
    obtain rfl := Except.ok.inj (Eq.trans numbered_joined.symm hjoined)
    rfl

/-- The `$id` of `numbered` in its absolute form. -/
theorem numbered_absoluteForm : AbsoluteForm numbered (("$id", "json-schema:///a.json") :: numbered.tail)
    numberedUri where
  same := .cons (.inr ⟨"/a.json", "json-schema:///a.json", rfl, rfl⟩)
    (List.forall₂_same.mpr fun _ _ => .inl rfl)
  relative := ⟨"/a.json", rfl, numbered_reads.2.2.1, numbered_reads.2.2.2.1⟩
  absolute := by
    refine ⟨"json-schema:///a.json", rfl, fun b => ?_⟩
    have hsignificant : Uri.significant "json-schema:///a.json" = "json-schema:///a.json".toList := by
      decide +kernel
    have hscheme : Uri.readScheme? "json-schema:///a.json".toList =
        some ("json-schema".toList, "///a.json".toList) := by decide +kernel
    unfold resolveUri Uri.join Uri.read
    dsimp only
    rw [hsignificant, hscheme]
    rfl
  unnamed := rfl

/-- The one reference of a document is resolved from the document's URI, and the document's `$id` may as
    well be absolute. -/
theorem numbered_joined_once :
    (∀ documents' : Documents,
      documents'.resolve numberedUri "#/definitions/n" =
        numberedDocuments.resolve numberedUri "#/definitions/n" →
      ∀ budget, lowerSchema (Surroundings.plain.among documents') budget (.obj numbered)
          ⟨"#", "", 0, numberedUri, 0⟩ =
        lowerSchema numberedEnvironment budget (.obj numbered) ⟨"#", "", 0, numberedUri, 0⟩) ∧
    compileSchema .plain (.obj (("$id", "json-schema:///a.json") :: numbered.tail)) =
      compileSchema .plain (.obj numbered) := by
  have hbuiltin : numberedEnvironment.registry.BuiltinOnly := Registry.withBuiltins_builtinOnly
  obtain ⟨-, hasks, hroot⟩ := ids_joined_once (s := .plain) numbered_reads.1 numbered_filed
    hbuiltin.namesBuiltins numbered_settled
  refine ⟨fun documents' hresolve => ?_, hroot hbuiltin _ _ _ rfl numbered_absoluteForm⟩
  refine hasks documents' fun place members handed rule hmeets hreads _ => ?_
  obtain ⟨rfl, href⟩ := numbered_referred hmeets hreads
  rw [href]
  exact hresolve

/-! ## An `$id` that is joined twice -/

/-- A schema beside `b.json`, which it refers to. -/
def beside (id : String) : Json := .obj [("$id", id), ("allOf", .arr [.obj [("$ref", "b.json")]])]

/-- A cache with `folder/b.json`. -/
def besideCache : Table String Json := Table.empty.set "json-schema:///folder/b.json" (.obj [("type", "string")])

/-- The reference that a refusal says leads nowhere, and from which base, if it says that. -/
def missingRef? {α : Type} : Except SchemaError α → Option (String × String)
  | .error (.missingRef reference base) => some (reference, base)
  | _ => none

theorem eq_error_of_missingRef? {α : Type} {x : Except SchemaError α} {reference base : String}
    (h : missingRef? x = some (reference, base)) : x = .error (.missingRef reference base) := by
  cases x with
  | ok a => cases h
  | error e =>
    cases e with
    | missingRef reference' base' =>
      obtain ⟨rfl, rfl⟩ := Prod.mk.inj (Option.some.inj h)
      rfl
    | _ => cases h

/-- **The `$id` of a root is joined twice** if it is relative: its references are resolved from a base
    that has its folder twice.  With the `$id` in its absolute form they are found. -/
theorem relative_id_joined_twice :
    resolveUri defaultBase "folder/a.json" = resolveUri defaultBase "json-schema:///folder/a.json" ∧
    compileSchema { Surroundings.plain with cache := besideCache } (beside "folder/a.json") =
      .error (.missingRef "b.json" "json-schema:///folder/folder/a.json") ∧
    ∃ validator, compileSchema { Surroundings.plain with cache := besideCache }
        (beside "json-schema:///folder/a.json") = .ok validator ∧
      validator.isValid (.str "x") = true ∧ validator.isValid (.num (.ofNat 1)) = false := by
  refine ⟨?_, ?_, ?_⟩
  · have huri : (resolveUri defaultBase "json-schema:///folder/a.json").toOption =
        some ⟨defaultBase.scheme, some {}, .segments ["folder".toList, "a.json".toList], none, none⟩ := by
      decide +kernel
    rw [eq_ok_of_toOption huri]
    exact eq_ok_of_toOption (by decide +kernel)
  · exact eq_error_of_missingRef? (by decide +kernel)
  · have hvalid : (compileSchema { Surroundings.plain with cache := besideCache }
        (beside "json-schema:///folder/a.json")).toOption.any
        (fun v => v.isValid (.str "x") && !v.isValid (.num (.ofNat 1))) = true := by decide +kernel
    cases hcompiled : compileSchema { Surroundings.plain with cache := besideCache }
        (beside "json-schema:///folder/a.json") with
    | error e =>
      rw [hcompiled] at hvalid
      cases hvalid
    | ok validator =>
      rw [hcompiled] at hvalid
      obtain ⟨hx, h1⟩ := Bool.and_eq_true_iff.mp (show (_ && _) = true from hvalid)
      exact ⟨validator, rfl, hx, by simpa using h1⟩

end JsonSchema
