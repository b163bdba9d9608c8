import JsonSchema.Proofs.Compiler.Calls
import JsonSchema.Proofs.Lowering.Cycles
import JsonSchema.Proofs.Reference.JoinedOnce
import JsonSchema.Proofs.Reference.LocalDocument
import JsonSchema.Proofs.Registry.ReferenceRule

/-!
# Two ways to a document that was added

The document under a key can be asked for, or a schema can be compiled that is nothing but a reference to
the key.  A document that is asked for is compiled as a root, which does not know its key: its references
are resolved from its `$id`, or else from the default base.  Behind a reference they are resolved from
the key.

**Where the references lead to the same schemas either way, the two validators say the same**
(`getSchema_agrees_with_reference`).
-/

set_option autoImplicit false

namespace JsonSchema

/-- The validators say the same of all data. -/
def Validator.SaysAs (v v' : Validator) : Prop :=
  ∀ data, v.validate data = v'.validate data ∧ v.isValid data = v'.isValid data

/-! ## Lowering either way -/

section

variable {s : Surroundings} {schema : Json} {base : Uri} {documents : Documents}

theorem lowerProgram_of_visible (hbase : schemaBase schema defaultBase = .ok base)
    (hdocuments : Documents.visibleFrom schema base s.cache = .ok documents) :
    lowerProgram s schema = lowerSchema (s.among documents) (loweringBudget schema documents) schema
      ⟨"#", "", 0, base, 0⟩ [] := by
  unfold lowerProgram
  rw [hbase]
  simp only [bind, Except.bind]
  rw [hdocuments]
  rfl

/-- A reference is lowered to a call of its target, which is the first procedure. -/
theorem lowerProgram_reference {group : RuleGroup} {key : String} {start : Target}
    (hreads : s.registry.ReadsRef group)
    (hdocuments : Documents.visibleFrom (refTo key) defaultBase s.cache = .ok documents)
    (hstart : documents.resolve defaultBase key = .ok start) :
    ∃ budget, lowerProgram s (refTo key) =
      (lowerSchema (s.among documents) budget start.schema (.ofTarget start 0) [⟨start, 0, none⟩]).map
        behindReference := by
  obtain ⟨budget, hbudget⟩ : ∃ budget, loweringBudget (refTo key) documents = budget + 1 :=
    Nat.exists_eq_succ_of_ne_zero (Nat.ne_of_gt (Nat.lt_of_le_of_lt (Nat.zero_le _) (size_lt_loweringBudget ..)))
  refine ⟨budget, ?_⟩
  have htarget : (referencePlace (s.among documents) ⟨"#", "", 0, defaultBase, 0⟩ key).env.documents.resolve
      defaultBase key = .ok start := hstart
  rw [lowerProgram_of_visible rfl hdocuments, hbudget, @lowerSchema_reference (s.among documents) group _ hreads]
  show ((referencePlace _ _ key).procedureOf _ key [] >>= fun r => Except.ok (Node.call r.1, r.2)) = _
  rw [KeywordPlace.procedureOf_eq, show (referencePlace _ _ key).position.base = defaultBase from rfl, htarget]
  show ((lowerSchema (s.among documents) budget start.schema (.ofTarget start 0) [⟨start, 0, none⟩]).map _ >>=
    _) = _
  cases lowerSchema (s.among documents) budget start.schema (.ofTarget start 0) [⟨start, 0, none⟩] <;> rfl

end

/-! ## Compiling either way -/

namespace Compiler

variable {c : Compiler} {document : Json} {key : String} {base : Uri} {documents documents' : Documents}
  {start : Target}

/-- Both ways find the document: as a root with what it can refer to, and behind its key, as a whole. -/
structure FindsDocument (c : Compiler) (document : Json) (key : String) (base : Uri)
    (documents documents' : Documents) (start : Target) : Prop where
  root : schemaBase document defaultBase = .ok base
  filed : Documents.visibleFrom document base c.documents = .ok documents
  filed' : Documents.visibleFrom (refTo key) defaultBase c.documents = .ok documents'
  reached : documents'.resolve defaultBase key = .ok start
  schema : start.schema = document
  fragment : start.fragment = ""

/-- **Where references lead alike, both ways compile alike.** -/
theorem compile_agrees {W : Correspondence} {group : RuleGroup} (hreads : c.registry.ReadsRef group)
    (hfinds : c.FindsDocument document key base documents documents' start) (hw : W document base start.base)
    (hparallel : (c.surroundings.among documents).Parallel documents' W)
    (hkeys : (c.surroundings.among documents).KeysTell documents' W start) :
    AgreeUpToContext (fun v v' => v'.SaysAs v) (c.compile document) (c.compile (refTo key)) := by
  have hroot : Target.Matches W ⟨document, base, "", ""⟩ start := ⟨hfinds.schema, hfinds.fragment, hw⟩
  have hlower : lowerProgram c.surroundings document =
      lowerSchema (c.surroundings.among documents) (loweringBudget document documents) document
        (.ofTarget ⟨document, base, "", ""⟩ 0) [] := lowerProgram_of_visible hfinds.root hfinds.filed
  obtain ⟨budget, hlower'⟩ := @lowerProgram_reference c.surroundings _ _ _ _ hreads hfinds.filed' hfinds.reached
  have hlowered : AgreeUpToContext
      (fun lowered lowered' => (Program.ofLowered lowered).StandsBehind (.ofLowered lowered'))
      (lowerProgram c.surroundings document) (lowerProgram c.surroundings (refTo key)) := by
    have hagree := lowerings_agree hparallel hkeys hroot (loweringBudget document documents) budget
    rw [hlower']
    exact hlower ▸ hagree.map_right behindReference fun _ _ h => h
  show AgreeUpToContext _ (compileSchema c.surroundings document) (compileSchema c.surroundings (refTo key))
  rw [compileSchema_eq, compileSchema_eq]
  refine hlowered.map fun lowered lowered' hl hl' hbehind data => ?_
  have hclosed := Program.ofLowered_closed (lowerProgram_ordered hl).1 (lowerProgram_ordered hl).2
  have hclosed' := Program.ofLowered_closed (lowerProgram_ordered hl').1 (lowerProgram_ordered hl').2
  have hrun := hbehind.run_eq hclosed hclosed'
  unfold Validator.validate Validator.isValid
  dsimp only
  rw [hrun, hrun]
  exact ⟨rfl, rfl⟩

end Compiler

/-! ## Documents with local references -/

/-- The compiler holds a document without `$id`s whose references are local, at a URI of its own. -/
structure Compiler.HoldsLocal (c : Compiler) (document : Json) (key : String) (uri : Uri)
    (cached : Documents) : Prop where
  withoutIds : document.WithoutIds
  refersLocally : RefersLocally document
  readsDraft7 : c.registry.ReadsDraft7 document
  ofCache : Documents.ofCache c.documents = .ok cached
  key : resolveUri defaultBase key = .ok uri
  whole : uri.withoutFragment = uri
  /-- No other document has a schema under this URI. -/
  filed : cached.get? uri.text = some document
  other : uri.text ≠ defaultBase.text

namespace Compiler.HoldsLocal

variable {c : Compiler} {document : Json} {key : String} {uri : Uri} {cached : Documents}

/-- What a reference to the key can lead to. -/
theorem get?_filed (h : c.HoldsLocal document key uri cached) :
    (cached.set defaultBase.text (refTo key)).get? uri.text = some document := by
  rw [Table.get?_set, if_neg h.other, h.filed]

/-- What a root can refer to. -/
theorem get?_root (cached : Documents) (document : Json) :
    (cached.set defaultBase.text document).get? defaultBase.text = some document := by
  rw [Table.get?_set, if_pos rfl]

theorem findsDocument (h : c.HoldsLocal document key uri cached) :
    c.FindsDocument document key defaultBase (cached.set defaultBase.text document)
      (cached.set defaultBase.text (refTo key)) (.whole document uri) where
  root := schemaBase_of_withoutIds h.withoutIds defaultBase
  filed := by
    rw [Documents.visibleFrom_of_withoutIds h.withoutIds, h.ofCache]
    rfl
  filed' := by
    have href : (refTo key).WithoutIds := withoutIds_obj.mpr
      ⟨rfl, List.forall_mem_singleton.mpr (withoutIds_str key)⟩
    rw [Documents.visibleFrom_of_withoutIds href, h.ofCache]
    rfl
  reached := by
    have hfragment : uri.fragment = none := by rw [← h.whole]; rfl
    have hanchored : uri.isAnchored = false := by rw [Uri.isAnchored, hfragment]; rfl
    unfold Documents.resolve
    simp only [h.key, bind, Except.bind, hanchored, h.whole, h.get?_filed, hfragment]
    rfl
  schema := rfl
  fragment := rfl

theorem parallel (h : c.HoldsLocal document key uri cached) :
    (c.surroundings.among (cached.set defaultBase.text document)).Parallel
      (cached.set defaultBase.text (refTo key)) (Reached.under document uri) :=
  h.refersLocally.parallel h.withoutIds h.readsDraft7 (get?_root cached document) h.whole h.get?_filed

theorem keysTell (h : c.HoldsLocal document key uri cached) :
    (c.surroundings.among (cached.set defaultBase.text document)).KeysTell
      (cached.set defaultBase.text (refTo key)) (Reached.under document uri) (.whole document uri) :=
  h.refersLocally.keysTell h.withoutIds h.readsDraft7 (get?_root cached document) h.whole h.get?_filed

/-- **A document with local references and no `$id`s compiles alike** as a root and behind its key. -/
theorem compile_agrees (h : c.HoldsLocal document key uri cached) {group : RuleGroup}
    (hreads : c.registry.ReadsRef group) :
    AgreeUpToContext (fun v v' => v'.SaysAs v) (c.compile document) (c.compile (refTo key)) :=
  Compiler.compile_agrees hreads h.findsDocument (under_root document uri) h.parallel h.keysTell

end Compiler.HoldsLocal

/-! ## Asking for a document and referring to it -/

/-- **Asking for a document and referring to its key agree**, after whatever calls, where the references in
    the document lead to the same schemas from its own base and from the key: both are refused, or both
    give validators that say the same.  One of them alone is refused at most because a reference
    loops back, or because schemas nest too deeply. -/
theorem getSchema_agrees_with_reference {options : Options} {calls : List Compiler.Call} {c : Compiler}
    {key normalized : String} {document : Json} {base : Uri} {documents documents' : Documents}
    {start : Target} {W : Correspondence} (hrun : (Compiler.new options).run calls = c)
    (hkey : normalizeId key = .ok normalized) (hcached : c.documents.get? normalized = some document)
    (hrefers : c.registry.hasRule "$ref" = true) (hcustom : c.registry.custom.get? "$ref" = none)
    (hfinds : c.FindsDocument document key base documents documents' start) (hw : W document base start.base)
    (hparallel : (c.surroundings.among documents).Parallel documents' W)
    (hkeys : (c.surroundings.among documents).KeysTell documents' W start) :
    ∃ asked, (c.getSchema key).map Prod.snd = asked.map some ∧
      AgreeUpToContext (fun v v' => v'.SaysAs v) asked (c.compile (refTo key)) := by
  have hcurrent : c.Current := hrun ▸ Compiler.run_current options calls
  have hreached : c.Reached options := hrun ▸ Compiler.Reached.new.run calls
  obtain ⟨group, hreads⟩ := hreached.coherent.readsRef hreached.draft7_holds hrefers hcustom
  exact ⟨c.compile document, hcurrent.getSchema_document hkey hcached,
    Compiler.compile_agrees hreads hfinds hw hparallel hkeys⟩

/-! ## A list, either way -/

/-- The compiler that holds `linkedList`, and nothing else. -/
def listing : Compiler := { Compiler.new {} with
  documents := Table.empty.set "json-schema:///list" linkedList }

/-- The URI of the list. -/
def listUri : Uri := { defaultBase with path := .segments ["list".toList] }

/-- What the text of the list's key is read as. -/
theorem list_reads :
    normalizeId "list" = .ok "json-schema:///list" ∧
    normalizeId "json-schema:///list" = .ok "json-schema:///list" ∧
    resolveUri defaultBase "json-schema:///list" = .ok listUri ∧
    Uri.parse "json-schema:///list" = .ok listUri ∧
    listUri.text = "json-schema:///list" ∧
    "json-schema:///list" ≠ defaultBase.text := by
  refine ⟨eq_ok_of_toOption ?_, eq_ok_of_toOption ?_, eq_ok_of_toOption ?_, eq_ok_of_toOption ?_, ?_, ?_⟩ <;>
    decide +kernel

theorem add_list : (Compiler.new {}).run [.addSchema linkedList (some "list")] = listing := by
  have hadd : (Compiler.new {}).addSchema linkedList (some "list") = .ok (listing, "json-schema:///list") :=
    Compiler.addSchema_eq list_reads.1 rfl
  show (Compiler.new {}).settle (((Compiler.new {}).addSchema linkedList (some "list")).map Prod.fst) = _
  rw [hadd]
  rfl

/-- The one reference inside the list. -/
theorem list_inside {members : List (String × Json)} {v : Json}
    (h : (Json.obj members).Inside linkedList) (hv : members.lookup "$ref" = some v) : v = .str "#" := by
  cases h with
  | here => cases hv
  | member hm h =>
    obtain rfl := List.mem_singleton.mp hm
    cases h with
    | here => cases hv
    | member hm h =>
      obtain rfl := List.mem_singleton.mp hm
      cases h with
      | here => exact (Option.some.inj hv).symm
      | member hm h =>
        obtain rfl := List.mem_singleton.mp hm
        cases h

theorem listing_holdsLocal : listing.HoldsLocal linkedList "json-schema:///list" listUri
    (Table.empty.set "json-schema:///list" linkedList) := by
  obtain ⟨-, -, huri, hparse, htext, hother⟩ := list_reads
  have hids : linkedList.WithoutIds := by
    simp [linkedList, withoutIds_obj, withoutIds_str, List.lookup_cons]
  refine ⟨hids, fun members v hmembers hv => ?_, Registry.withBuiltins_readsDraft7 linkedList, ?_, huri, rfl, ?_,
    htext ▸ hother⟩
  · exact ⟨"#", list_inside hmembers.inside hv, [], rfl, fun c hc => nomatch hc⟩
  · exact Documents.ofCache_of_withoutIds (List.forall_mem_singleton.mpr ⟨hids, listUri, hparse⟩)
  · rw [htext, Table.get?_set, if_pos rfl]

/-- The validator of the list says what a reference to the list says. -/
theorem list_either_way : ∃ v v', (listing.getSchema "json-schema:///list").map Prod.snd = .ok (some v) ∧
    listing.compile (refTo "json-schema:///list") = .ok v' ∧ v'.SaysAs v := by
  obtain ⟨asked, hasked, hagree⟩ := getSchema_agrees_with_reference (W := Reached.under linkedList listUri)
    add_list list_reads.2.1
    (by rw [listing, Table.get?_set, if_pos rfl]) Registry.withBuiltins_refers (by decide +kernel)
    listing_holdsLocal.findsDocument (under_root linkedList listUri) listing_holdsLocal.parallel
    listing_holdsLocal.keysTell
  have hanswers : ((listing.getSchema "json-schema:///list").map Prod.snd).toOption.isSome ∧
    (listing.compile (refTo "json-schema:///list")).toOption.isSome := by decide +kernel
  have hfound : asked.toOption.isSome := by
    rw [hasked] at hanswers
    cases asked with
    | error e => exact hanswers.1
    | ok v => rfl
  obtain ⟨v, v', rfl, hv', hsays⟩ := hagree.related hfound hanswers.2
  exact ⟨v, v', hasked, hv', hsays⟩

/-! ## Documents that the two ways tell apart -/

/-- A schema that refers to the schema beside it. -/
def neighbour : Json := .obj [("allOf", .arr [.obj [("$ref", "b.json")]])]

/-- The compiler that holds a schema and its neighbour in a folder. -/
def folder : Compiler := { Compiler.new {} with
  documents := besideCache.set "json-schema:///folder/a.json" neighbour }

/-- **A document that refers to its neighbour cannot be asked for**: the reference is resolved from the
    default base, though the document was added under a key in a folder.  By a reference to the key the
    document is found, and its neighbour too. -/
theorem neighbour_lost :
    (∃ c, (Compiler.new {}).addSchema (.obj [("type", "string")]) (some "folder/b.json") =
        .ok (c, "json-schema:///folder/b.json") ∧
      c.addSchema neighbour (some "folder/a.json") = .ok (folder, "json-schema:///folder/a.json")) ∧
    (folder.getSchema "json-schema:///folder/a.json").map Prod.snd =
      .error (.missingRef "b.json" "json-schema:///") ∧
    ∃ validator, folder.compile (refTo "json-schema:///folder/a.json") = .ok validator ∧
      validator.isValid (.str "x") = true ∧ validator.isValid (.num (.ofNat 1)) = false := by
  have hkeys : normalizeId "folder/b.json" = .ok "json-schema:///folder/b.json" ∧
      normalizeId "folder/a.json" = .ok "json-schema:///folder/a.json" :=
    ⟨eq_ok_of_toOption (by decide +kernel), eq_ok_of_toOption (by decide +kernel)⟩
  have hfree : besideCache.contains "json-schema:///folder/a.json" = false := by decide +kernel
  refine ⟨⟨_, Compiler.addSchema_eq hkeys.1 rfl, Compiler.addSchema_eq hkeys.2 hfree⟩,
    eq_error_of_missingRef? (by decide +kernel), ?_⟩
  have hanswers : (folder.compile (refTo "json-schema:///folder/a.json")).toOption.any
    (fun v => v.isValid (.str "x") && !v.isValid (.num (.ofNat 1))) = true := by decide +kernel
  obtain ⟨validator, hcompile, hvalid⟩ := exists_ok_of_any hanswers
  obtain ⟨hx, hone⟩ := Bool.and_eq_true_iff.mp hvalid
  exact ⟨validator, hcompile, hx, by simpa using hone⟩

/-- A schema that leads back to itself, first from a property and then where it stands. -/
def returning : Json := .obj [
  ("allOf", .arr [
    .obj [("properties", .obj [("x", .obj [("$ref", "#/definitions/b")])])],
    .obj [("$ref", "#/definitions/b")]]),
  ("definitions", .obj [("b", .obj [("allOf", .arr [.obj [("$ref", "#")]])])])]

/-- The compiler that holds `returning`. -/
def returningHeld : Compiler := { Compiler.new {} with
  documents := Table.empty.set "json-schema:///back" returning }

/-- **The two ways are not refused alike because of loops.**  As a root, `returning` comes back to its
    definition, which is still open; behind its key, it comes back to itself, outside the data that the
    definition is lowered for. -/
theorem loops_as_root_only :
    ((returningHeld.compile returning).mapError SchemaError.message).map (fun _ => ()) = .error
      "$ref at #/allOf/1/$ref: reference #/definitions/b loops back without moving into the data" ∧
    (returningHeld.compile (refTo "json-schema:///back")).toOption.isSome := by decide +kernel

end JsonSchema
