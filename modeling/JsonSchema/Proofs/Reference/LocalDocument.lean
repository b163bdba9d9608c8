import JsonSchema.Proofs.Lowering.Counterparts
import JsonSchema.Proofs.Reference.Transparency

/-!
# A document under two URIs

A document whose references are all local, and in which nothing has an `$id`, is the same from every URI
that it is filed at: what is lowered from the default base and from another URI is lowered in parallel
(`RefersLocally.parallel`), and its parts are told apart by their pointers either way
(`RefersLocally.keysTell`).
-/

set_option autoImplicit false

namespace JsonSchema

/-- Every `$ref` that the document leads to is a string, and a local reference. -/
def RefersLocally (root : Json) : Prop :=
  ∀ members v, Reached root (.obj members) → members.lookup "$ref" = some v →
    ∃ reference, v = .str reference ∧ IsLocalReference reference

/-- What a document leads to, from the default base and from another URI. -/
def Reached.under (root : Json) (uri : Uri) : Correspondence := fun s base base' =>
  base = defaultBase ∧ base' = uri ∧ (s.isSchema = true → Reached root s)

/-- The document as a whole, at a URI. -/
def Target.whole (root : Json) (uri : Uri) : Target := ⟨root, uri, uri.text ++ "#" ++ "", ""⟩

section

variable {env : Environment} {root : Json} {documents' : Documents} {uri : Uri}
  {members : List (String × Json)} {rule : Rule}

theorem Target.whole_pointsInto (root : Json) (uri : Uri) : (Target.whole root uri).PointsInto root uri :=
  ⟨rfl, rfl, [], rfl, fun _ => rfl⟩

/-- The reference of a reached object is a local one. -/
theorem RefersLocally.reference (h : RefersLocally root) (hr : env.registry.ReadsDraft7 root)
    (hmembers : Reached root (.obj members)) (hreads : env.Reads members rule)
    (hrule : rule.implementation = .builtin .ref) :
    IsLocalReference (rule.reference members) ∧ reference? members = some (rule.reference members) := by
  obtain ⟨k, rfl, -⟩ := hreads.builtin hr hmembers
  cases hrule
  obtain ⟨group, -, hpresent⟩ := hreads
  obtain ⟨name, hname, hsome⟩ := List.any_eq_true.mp (Bool.and_eq_true_iff.mp (List.mem_filter.mp hpresent).2).1
  obtain rfl : name = "$ref" := List.mem_singleton.mp hname
  obtain ⟨v, hv⟩ := Option.isSome_iff_exists.mp hsome
  obtain ⟨reference, rfl, hlocal⟩ := h members v hmembers hv
  have href : reference? members = some reference := by
    rw [reference?, hv]
    rfl
  rw [reference_eq, href]
  exact ⟨hlocal, rfl⟩

theorem under_root (root : Json) (uri : Uri) : Reached.under root uri root defaultBase uri :=
  ⟨rfl, rfl, fun _ => .refl⟩

/-- Entering a reached object leaves the two bases as they are. -/
theorem enters_under (hids : root.WithoutIds) {inner inner' : Uri}
    (h : (Reached.under root uri).Enters members inner inner') :
    Reached root (.obj members) ∧ inner = defaultBase ∧ inner' = uri := by
  obtain ⟨base, base', ⟨rfl, rfl, hreached⟩, hinner, hinner'⟩ := h
  have hmembers := hreached rfl
  rw [schemaBase_of_withoutIds (hids.inside hmembers.inside)] at hinner hinner'
  exact ⟨hmembers, (Except.ok.inj hinner).symm, (Except.ok.inj hinner').symm⟩

/-- What a local reference leads to from either URI. -/
theorem Documents.resolve_under {documents : Documents} {base base' : Uri} {reference : String}
    (hids : root.WithoutIds) (h : IsLocalReference reference)
    (hbase : base.withoutFragment = base) (hroot : documents.get? base.text = some root)
    (hbase' : base'.withoutFragment = base') (hroot' : documents'.get? base'.text = some root) :
    (∃ e e', documents.resolve base reference = .error e ∧ documents'.resolve base' reference = .error e') ∨
      ∃ target target', documents.resolve base reference = .ok target ∧
        documents'.resolve base' reference = .ok target' ∧ target'.schema = target.schema ∧
        target'.fragment = target.fragment := by
  obtain ⟨fragment, hpoint⟩ := Documents.resolve_eq_point h
  rw [hpoint _ root _ hbase hroot, hpoint _ root _ hbase' hroot', Documents.point, Documents.point]
  cases Percent.decode? fragment with
  | none => exact .inl ⟨_, _, rfl, rfl⟩
  | some pointer =>
    dsimp only
    cases Pointer.parse? (String.ofList pointer) with
    | none => exact .inl ⟨_, _, rfl, rfl⟩
    | some tokens =>
      dsimp only
      rcases Documents.follow_of_withoutIds tokens hids with hf | ⟨w, -, hf⟩
      · rw [hf, hf]
        exact .inl ⟨_, _, rfl, rfl⟩
      · rw [hf, hf]
        exact .inr ⟨_, _, rfl, rfl, rfl, rfl⟩

section

variable (hids : root.WithoutIds) (hlocal : RefersLocally root)
  (hr : env.registry.ReadsDraft7 root) (hroot : env.documents.get? defaultBase.text = some root)
  (huri : uri.withoutFragment = uri) (hroot' : documents'.get? uri.text = some root)

include hids hlocal hr hroot huri hroot'

/-- **A document with local references is lowered in parallel** from the default base and from its URI. -/
theorem RefersLocally.parallel : env.Parallel documents' (Reached.under root uri) where
  bases := by
    rintro members base base' ⟨-, -, hreached⟩
    have hinside := hids.inside (hreached rfl).inside
    rw [schemaBase_of_withoutIds hinside, schemaBase_of_withoutIds hinside]
    exact Iff.rfl
  applied := by
    intro members inner inner' rule k position data s h hreads hrule happlies
    obtain ⟨hmembers, rfl, rfl⟩ := enters_under hids h
    exact ⟨rfl, rfl, fun hs => hmembers.tail (hreads.leads hr hmembers hrule happlies hs)⟩
  expanded := by
    intro members inner inner' rule d expand h hreads hrule
    obtain ⟨k, rfl, -⟩ := hreads.builtin hr (enters_under hids h).1
    cases hrule
  referred := by
    intro members inner inner' rule h hreads hrule
    obtain ⟨hmembers, rfl, rfl⟩ := enters_under hids h
    obtain ⟨hreference, href⟩ := hlocal.reference hr hmembers hreads hrule
    rcases Documents.resolve_under hids hreference rfl hroot huri hroot' with
      ⟨e, e', he, he'⟩ | ⟨target, target', htarget, htarget', hschema, hfragment⟩
    · rw [he, he']
      exact .missing
    · rw [htarget, htarget']
      refine .found ⟨hschema, hfragment, ?_, ?_, fun hs => hmembers.tail (.target ?_)⟩
      · exact (local_target hids hreference rfl hroot htarget).2.base
      · exact (local_target hids hreference huri hroot' htarget').2.base
      · rw [Documents.resolve_local hroot hreference] at htarget
        rw [refTarget?, href, Option.bind_some, Json.target?, htarget]
        exact if_pos hs

/-- What references lead to, under either URI. -/
theorem RefersLocally.reaches {target target' : Target}
    (h : env.Reaches documents' (Reached.under root uri) target target') :
    target.PointsInto root defaultBase ∧ target'.PointsInto root uri ∧ target'.fragment = target.fragment := by
  have hmatches := h.matches (hlocal.parallel hids hr hroot huri hroot')
  obtain ⟨members, inner, inner', rule, henters, hreads, hrule, htarget, htarget'⟩ := h
  obtain ⟨hmembers, rfl, rfl⟩ := enters_under hids henters
  obtain ⟨hreference, -⟩ := hlocal.reference hr hmembers hreads hrule
  exact ⟨(local_target hids hreference rfl hroot htarget).2,
    (local_target hids hreference huri hroot' htarget').2, hmatches.fragment⟩

/-- **Keys tell the parts of a document apart**, under either URI. -/
theorem RefersLocally.keysTell :
    env.KeysTell documents' (Reached.under root uri) (.whole root uri) where
  left h₁ h₂ hkey := by
    obtain ⟨hleft₁, -⟩ := hlocal.reaches hids hr hroot huri hroot' h₁
    obtain ⟨hleft₂, -⟩ := hlocal.reaches hids hr hroot huri hroot' h₂
    exact hleft₁.eq_of_key hleft₂ hkey
  right h₁ h₂ hkey := by
    obtain ⟨-, hright₁, -⟩ := hlocal.reaches hids hr hroot huri hroot' h₁
    obtain ⟨-, hright₂, -⟩ := hlocal.reaches hids hr hroot huri hroot' h₂
    exact hright₁.eq_of_key hright₂ hkey
  start h hkey := by
    obtain ⟨-, hright, -⟩ := hlocal.reaches hids hr hroot huri hroot' h
    exact hright.eq_of_key (Target.whole_pointsInto root uri) hkey
  across h₁ h₂ hkey := by
    obtain ⟨hleft₁, hright₁, hfragment₁⟩ := hlocal.reaches hids hr hroot huri hroot' h₁
    obtain ⟨hleft₂, hright₂, hfragment₂⟩ := hlocal.reaches hids hr hroot huri hroot' h₂
    have hsame := hleft₁.eq_of_key hleft₂ hkey
    rw [hright₁.key, hright₂.key, hfragment₁, hfragment₂, hsame]

end

end

end JsonSchema
