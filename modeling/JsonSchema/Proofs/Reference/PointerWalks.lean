import JsonSchema.Proofs.Reference.Bases
import JsonSchema.Proofs.Reference.Meaning
import JsonSchema.Proofs.Uri.Percent

/-!
# The two walks along a JSON pointer

A reference into a document and a reference into the data both name a part by a JSON pointer, and each has
a walk of its own (`Documents.step?`, `Pointer.child?`).  In a document without `$id`s they lead to the same
part, with the one exception that an array's element may be named with leading zeros by a reference into a
document only: **the walks agree on a pointer exactly if they are not led on by such a numeral**
(`pointer_walks_agree_iff`).

A pointer may be encoded as a fragment in any way that encodes percent signs and what a fragment cannot hold
(`pointsTo_encode`).
-/

set_option autoImplicit false

namespace JsonSchema

/-! ## References that end in a pointer -/

/-- Characters behind the number sign, none of them a blank, are the fragment of the base. -/
theorem resolveUri_fragment {cs : List Char} (h : ∀ c ∈ cs, ¬ c.toNat ≤ 0x20) (base : Uri) :
    resolveUri base ("#" ++ String.ofList cs) =
      .ok { base with fragment := some (Percent.encode Uri.inFragmentSet cs) } := by
  have htext : ("#" ++ String.ofList cs).toList = '#' :: cs := by simp
  have hkept : ∀ ds : List Char, (∀ c ∈ ds, ¬ c.toNat ≤ 0x20) →
      ds.dropWhile (fun c => decide (c.toNat ≤ 0x20)) = ds := by
    intro ds hds
    cases ds with
    | nil => rfl
    | cons d rest => exact List.dropWhile_cons_of_neg (by simpa using hds d List.mem_cons_self)
  have hall : ∀ c ∈ '#' :: cs, ¬ c.toNat ≤ 0x20 := List.forall_mem_cons.mpr ⟨by decide, h⟩
  have hsignificant : Uri.significant ("#" ++ String.ofList cs) = '#' :: cs := by
    unfold Uri.significant
    dsimp only
    rw [htext, hkept _ hall, hkept _ fun c hc => hall c (List.mem_reverse.mp hc), List.reverse_reverse]
    refine List.filter_eq_self.mpr fun c hc => ?_
    have hc := hall c hc
    simp only [decide_eq_true_eq]
    refine ⟨?_, ?_, ?_⟩ <;>
    · rintro rfl
      exact hc (by decide)
  have hscheme : Uri.readScheme? ('#' :: cs) = none := rfl
  unfold resolveUri Uri.join Uri.read
  dsimp only
  rw [hsignificant, hscheme]
  rfl

/-- A reference from a place stands for the pointer in the document of a URI. -/
def PointsTo (place : Uri) (reference : String) (uri : Uri) (pointer : String) : Prop :=
  ∃ fragment, resolveUri place reference = .ok { uri with fragment := some fragment } ∧
    isAnchor fragment = false ∧ Percent.decode? fragment = some pointer.toList

/-- **A pointer can be encoded as a fragment**, in whatever way that leaves slashes. -/
theorem pointsTo_encode {reserved : Char → Bool} (hpercent : reserved '%' = true) (hslash : reserved '/' = false)
    (hfragment : ∀ c, Uri.inFragmentSet c = true → reserved c = true) {pointer : String}
    (hpointer : isAnchor pointer.toList = false) (uri : Uri) :
    PointsTo uri ("#" ++ String.ofList (Percent.encode reserved pointer.toList)) uri pointer := by
  have hplain : ∀ c ∈ Percent.encode reserved pointer.toList, c.toNat < 0x80 ∧ Uri.inFragmentSet c = false := by
    have hdigits : ∀ d < 16, (Nat.digitChar d).toUpper.toNat < 0x80 ∧
        Uri.inFragmentSet (Nat.digitChar d).toUpper = false := by decide
    intro c hc
    rcases Percent.mem_encode hc with rfl | ⟨n, rfl⟩ | ⟨-, hascii, hfree⟩
    · decide
    · exact hdigits _ (Nat.mod_lt n (by decide))
    · exact ⟨hascii, Bool.eq_false_iff.mpr fun hin => Bool.eq_false_iff.mp hfree (hfragment c hin)⟩
  have hprinted : ∀ c ∈ Percent.encode reserved pointer.toList, ¬ c.toNat ≤ 0x20 := by
    intro c hc hle
    refine Bool.eq_false_iff.mp (hplain c hc).2 ?_
    rcases Nat.lt_or_eq_of_le hle with hcontrol | hblank
    · simp [Uri.inFragmentSet, Host.isControl, hcontrol]
    · obtain rfl : c = ' ' := Char.toNat_inj.mp hblank
      decide
  refine ⟨_, resolveUri_fragment hprinted uri, ?_, ?_⟩
  · rw [Percent.encode_eq_self hplain]
    cases htext : pointer.toList with
    | nil => rfl
    | cons first rest =>
      rw [htext] at hpointer
      obtain rfl : first = '/' := by simpa [isAnchor] using hpointer
      have hkept : Percent.encodeChar reserved '/' = ['/'] := by simp [Percent.encodeChar, hslash]
      rw [Percent.encode, List.flatMap_cons, hkept]
      rfl
  · rw [Percent.encode_eq_self hplain, Percent.decode?_encode hpercent]

/-! ## The walks -/

/-- A token of several characters of which the first is a zero. -/
def isPadded (token : String) : Bool :=
  match token.toList with
  | '0' :: _ :: _ => true
  | _ => false

/-- The one walk goes on like the other, but for arrays' elements with leading zeros. -/
theorem child?_eq (v : Json) (token : String) :
    Pointer.child? v token = if v.arr?.isSome && isPadded token then none else Documents.step? v token := by
  unfold Pointer.child? Documents.step? isPadded
  cases v with
  | arr items =>
    cases htoken : token.toList with
    | nil => rfl
    | cons first more =>
      cases more with
      | nil => by_cases hzero : first = '0' <;> simp [Json.arr?, hzero]
      | cons second more => by_cases hzero : first = '0' <;> simp [Json.arr?, hzero]
  | _ => rfl

namespace Documents

/-- Where the tokens of a reference lead, if no schema on the way has an `$id`. -/
def walk (v : Json) : List String → Option Json
  | [] => some v
  | token :: rest => (step? v token).bind (walk · rest)

theorem follow_eq_walk (tokens : List String) : ∀ {v : Json}, v.WithoutIds → ∀ base,
    follow v base tokens = .ok ((walk v tokens).map (·, base)) := by
  induction tokens with
  | nil => exact fun _ _ => rfl
  | cons token rest ih =>
    intro v hv base
    rw [follow, walk]
    cases hstep : step? v token with
    | none => rfl
    | some inner =>
      have hinner := hv.inside (step?_inside hstep)
      dsimp only
      rw [schemaBase_of_withoutIds hinner]
      exact ih hinner base

/-- Whether, on the way that the tokens lead, one with leading zeros names an array's element. -/
def namesPadded (v : Json) : List String → Bool
  | [] => false
  | token :: rest => v.arr?.isSome && isPadded token || (step? v token).any (namesPadded · rest)

/-- **The walks agree exactly if none is led on by leading zeros.** -/
theorem follow?_eq_walk_iff (tokens : List String) : ∀ v : Json,
    Pointer.follow? v tokens = walk v tokens ↔ ((walk v tokens).isSome → namesPadded v tokens = false) := by
  induction tokens with
  | nil => exact fun v => iff_of_true rfl fun _ => rfl
  | cons token rest ih =>
    intro v
    rw [Pointer.follow?, walk, namesPadded, child?_eq]
    cases hpadded : v.arr?.isSome && isPadded token with
    | true =>
      rw [if_pos rfl, Option.bind_none, Bool.true_or]
      cases (step? v token).bind (walk · rest) <;> simp
    | false =>
      rw [if_neg Bool.false_ne_true, Bool.false_or]
      cases step? v token with
      | none => exact iff_of_true rfl fun h => absurd h Bool.false_ne_true
      | some w => exact ih w

/-- What a reference to a pointer leads to in a document without `$id`s. -/
theorem resolve_pointsTo {docs : Documents} {place uri : Uri} {reference pointer : String} {document : Json}
    (hdocument : docs.get? uri.withoutFragment.text = some document) (hids : document.WithoutIds)
    (h : PointsTo place reference uri pointer) :
    docs.resolve place reference =
      match (Pointer.parse? pointer).bind (walk document) with
      | some v => .ok ⟨v, uri.withoutFragment, uri.withoutFragment.text ++ "#" ++ pointer, pointer⟩
      | none => .error (.missingRef reference place.text) := by
  obtain ⟨fragment, hresolved, hanchor, hdecoded⟩ := h
  have hanchored : { uri with fragment := some fragment }.isAnchored = false := hanchor
  have hwithout : { uri with fragment := some fragment }.withoutFragment = uri.withoutFragment := rfl
  unfold resolve
  simp only [hresolved, bind, Except.bind, hanchored, hwithout, hdocument, Option.getD_some, hdecoded,
    String.ofList_toList]
  cases Pointer.parse? pointer with
  | none => rfl
  | some tokens =>
    simp only [follow_eq_walk tokens hids, Option.bind_some]
    cases walk document tokens <;> rfl

end Documents

/-! ## The theorem -/

section

open Documents

variable {docs : Documents} {uri : Uri} {document : Json} {pointer : String}

/-- **When the walks agree.**  Let a document without `$id`s be filed under a URI.  A JSON pointer can be encoded
    as the fragment of the URI, in whatever way that encodes percent signs and what a fragment cannot hold and
    leaves slashes.  What a reference to it leads to has the URI for its base; and the reference leads to just
    what the pointer leads to in the data, if and only if no token with leading zeros that names an array's
    element leads it on. -/
theorem pointer_walks_agree_iff (hdocument : docs.get? uri.withoutFragment.text = some document)
    (hids : document.WithoutIds) (hpointer : isAnchor pointer.toList = false) :
    (∀ reserved : Char → Bool, reserved '%' = true → reserved '/' = false →
      (∀ c, Uri.inFragmentSet c = true → reserved c = true) →
      PointsTo uri ("#" ++ String.ofList (Percent.encode reserved pointer.toList)) uri pointer) ∧
    ∀ place reference, PointsTo place reference uri pointer →
      (∀ target, docs.resolve place reference = .ok target → target.base = uri.withoutFragment) ∧
      ((∀ v, (Pointer.parse? pointer).bind (Pointer.follow? document) = some v ↔
          ∃ target, docs.resolve place reference = .ok target ∧ target.schema = v) ↔
        ∀ tokens, Pointer.parse? pointer = some tokens → (walk document tokens).isSome →
          namesPadded document tokens = false) := by
  refine ⟨fun reserved hpercent hslash hfragment => pointsTo_encode hpercent hslash hfragment hpointer uri,
    fun place reference h => ?_⟩
  have hresolve := resolve_pointsTo hdocument hids h
  have hfinds : ∀ v, (∃ target, docs.resolve place reference = .ok target ∧ target.schema = v) ↔
      (Pointer.parse? pointer).bind (walk document) = some v := by
    intro v
    rw [hresolve]
    cases (Pointer.parse? pointer).bind (walk document) <;> simp
  constructor
  · intro target htarget
    rw [hresolve] at htarget
    split at htarget
    · obtain rfl := Except.ok.inj htarget
      rfl
    · cases htarget
  · have hsame : (∀ v, (Pointer.parse? pointer).bind (Pointer.follow? document) = some v ↔
        ∃ target, docs.resolve place reference = .ok target ∧ target.schema = v) ↔
        (Pointer.parse? pointer).bind (Pointer.follow? document) =
          (Pointer.parse? pointer).bind (walk document) := by
      simp only [hfinds]
      exact ⟨fun h => Option.ext fun v => h v, fun h v => by rw [h]⟩
    rw [hsame]
    cases Pointer.parse? pointer with
    | none => exact iff_of_true rfl fun _ h => absurd h.symm (Option.some_ne_none _)
    | some tokens => simpa using follow?_eq_walk_iff tokens document

end

open Documents (alone get?_alone)

/-- A document with an array among its definitions. -/
def numberedTypes : Json :=
  .obj [("definitions", .obj [("a", .arr [.obj [("type", "string")], .obj [("type", "integer")]])])]

theorem numberedTypes_withoutIds : numberedTypes.WithoutIds := .of_insides (by decide)

/-- The characters that a fragment encodes at least. -/
def fragmentReserved (c : Char) : Bool := c == '%' || Uri.inFragmentSet c

/-- A number without leading zeros leads to the same element in either way. -/
theorem second_listed : (alone numberedTypes).get? defaultBase.withoutFragment.text = some numberedTypes ∧
    numberedTypes.WithoutIds ∧ isAnchor "/definitions/a/1".toList = false ∧
    PointsTo defaultBase "#/definitions/a/1" defaultBase "/definitions/a/1" ∧
    ∀ v, (Pointer.parse? "/definitions/a/1").bind (Pointer.follow? numberedTypes) = some v ↔
      ∃ target, (alone numberedTypes).resolve defaultBase "#/definitions/a/1" = .ok target ∧ target.schema = v := by
  have hdocument : (alone numberedTypes).get? defaultBase.withoutFragment.text = some numberedTypes :=
    get?_alone numberedTypes
  have hpointer : isAnchor "/definitions/a/1".toList = false := by decide
  obtain ⟨hencodes, hagree⟩ := pointer_walks_agree_iff hdocument numberedTypes_withoutIds hpointer
  have htext : "#" ++ String.ofList (Percent.encode fragmentReserved "/definitions/a/1".toList) =
    "#/definitions/a/1" := by decide +kernel
  have hpoints : PointsTo defaultBase "#/definitions/a/1" defaultBase "/definitions/a/1" := by
    rw [← htext]
    exact hencodes fragmentReserved (by decide) (by decide) fun c hc => by simp [fragmentReserved, hc]
  refine ⟨hdocument, numberedTypes_withoutIds, hpointer, hpoints, (hagree _ _ hpoints).2.mpr ?_⟩
  rintro _ ⟨⟩ -
  decide

/-- **With a leading zero only a reference into the document finds the element.** -/
theorem padded_number_found : ∃ target,
    (alone numberedTypes).get? defaultBase.text = some numberedTypes ∧ numberedTypes.WithoutIds ∧
    PointsTo defaultBase "#/definitions/a/01" defaultBase "/definitions/a/01" ∧
    (alone numberedTypes).resolve defaultBase "#/definitions/a/01" = .ok target ∧
    (Pointer.parse? "/definitions/a/01").bind (Pointer.follow? numberedTypes) = none := by
  have htext : "#" ++ String.ofList (Percent.encode fragmentReserved "/definitions/a/01".toList) =
    "#/definitions/a/01" := by decide +kernel
  have hpoints : PointsTo defaultBase "#/definitions/a/01" defaultBase "/definitions/a/01" := by
    rw [← htext]
    exact pointsTo_encode (by decide) (by decide) (fun c hc => by simp [fragmentReserved, hc]) (by decide) _
  have hfound : ((alone numberedTypes).resolve defaultBase "#/definitions/a/01").toOption.any
      (fun _ => true) = true := by decide +kernel
  obtain ⟨target, htarget, -⟩ := exists_ok_of_any hfound
  exact ⟨target, get?_alone numberedTypes, numberedTypes_withoutIds, hpoints, htarget, rfl⟩

end JsonSchema
