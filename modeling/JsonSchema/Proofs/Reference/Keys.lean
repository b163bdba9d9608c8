import JsonSchema.Proofs.Reference.Local
import JsonSchema.Proofs.Uri.Reading

/-!
# Keys tell targets apart

The key of a target is the text of a URI.  Bases are in normal form wherever lowering goes
(`schemaBase_normal`, `Documents.Reached.base_normal`), texts tell URIs in normal form apart, and the URI
tells the document and the way inside it: **references with targets of one key lead to the same schema, base
and path** (`Documents.Reached.eq_of_key_eq`).
-/

set_option autoImplicit false

namespace JsonSchema

/-! ## Bases -/

theorem Uri.Normal.withoutFragment {u : Uri} (h : u.Normal) : u.withoutFragment.Normal := by
  obtain ⟨hscheme, hplace, hfile, hquery⟩ := h
  refine ⟨hscheme, ?_, hfile, hquery⟩
  unfold Uri.withoutFragment
  dsimp only
  split
  · next t hpath _ =>
    rw [hpath] at hplace
    generalize u.authority = authority at hplace
    -- what remains is the beginning of the path
    have hstart : (t.reverse.dropWhile (· = ' ')).reverse <+: t := by
      have hsuffix := List.reverse_prefix.mpr (List.dropWhile_suffix (l := t.reverse) (· = ' '))
      rwa [List.reverse_reverse] at hsuffix
    cases hplace with
    | rootless ht hslash =>
      refine .rootless (fun c hc => ht c (hstart.subset hc)) fun hhead => hslash ?_
      obtain ⟨rest, hrest⟩ := hstart
      rw [← hrest, List.head?_append, hhead]
      rfl
  · exact hplace

theorem defaultBase_normal : defaultBase.Normal where
  scheme := by decide
  place := .authority ⟨.nil, .nil, Host.normal_nil⟩ (List.forall_mem_singleton.mpr .nil)
  file := fun _ => rfl
  query := nofun

theorem resolveUri_normal {base u : Uri} {reference : String} (hbase : base.Normal)
    (h : resolveUri base reference = .ok u) : u.Normal := by
  unfold resolveUri at h
  cases hjoin : base.join reference with
  | error e =>
    rw [hjoin] at h
    cases h
  | ok joined =>
    rw [hjoin] at h
    obtain rfl := Except.ok.inj h
    refine Uri.read_normal (fun b hb => ?_) hjoin
    obtain rfl := Option.some.inj hb
    exact hbase

theorem schemaBase_normal {schema : Json} {base inner : Uri} (hbase : base.Normal)
    (h : schemaBase schema base = .ok inner) : inner.Normal := by
  unfold schemaBase at h
  split at h
  · next id _ =>
    cases hjoin : resolveUri base id with
    | error e =>
      rw [hjoin] at h
      cases h
    | ok u =>
      rw [hjoin] at h
      obtain rfl := Except.ok.inj h
      exact (resolveUri_normal hbase hjoin).withoutFragment
  · obtain rfl := Except.ok.inj h
    exact hbase

namespace Documents

theorem follow_normal {tokens : List String} : ∀ {schema : Json} {base : Uri} {found : Json × Uri}, base.Normal →
    follow schema base tokens = .ok (some found) → found.2.Normal := by
  induction tokens with
  | nil =>
    intro schema base found hbase h
    obtain rfl := Option.some.inj (Except.ok.inj h)
    exact hbase
  | cons token rest ih =>
    intro schema base found hbase h
    rw [follow] at h
    split at h
    · cases h
    · obtain ⟨inner, hinner, h⟩ := bind_eq_ok.mp h
      exact ih (schemaBase_normal hbase hinner) h

/-! ## Targets -/

/-- What the URI of a target says about it. -/
inductive Leads (docs : Documents) (u : Uri) : Target → Prop where
  | name {schema : Json} : u.isAnchored = true → docs.get? u.text = some schema →
      Leads docs u ⟨schema, u.withoutFragment, u.text, ""⟩
  | pointer {pointer : String} {tokens : List String} {root schema : Json} {base : Uri} :
      u.fragment = some pointer.toList → docs.get? { u with fragment := none : Uri }.text = some root →
      Pointer.parse? pointer = some tokens →
      follow root { u with fragment := none } tokens = .ok (some (schema, base)) →
      Leads docs u ⟨schema, base, { u with fragment := none : Uri }.text ++ "#" ++ pointer, pointer⟩

/-- A target that a reference leads to from a base in normal form. -/
def Reached (docs : Documents) (target : Target) : Prop := ∃ u, u.Normal ∧ docs.Leads u target

/-- A pointer does not look like a name. -/
theorem not_isAnchor_of_parse? {pointer : String} {tokens : List String}
    (h : Pointer.parse? pointer = some tokens) : isAnchor pointer.toList = false := by
  unfold Pointer.parse? at h
  split at h
  · next hnil =>
    rw [hnil]
    rfl
  · next hslash =>
    rw [hslash]
    rfl
  · cases h

theorem text_of_fragment {u : Uri} {fragment : List Char} (h : u.fragment = some fragment) :
    u.text = { u with fragment := none : Uri }.text ++ "#" ++ String.ofList fragment := by
  have hnone : { u with fragment := none : Uri }.text = String.ofList u.textBeforeFragment := by
    unfold Uri.text
    rw [List.append_nil]
    rfl
  have hhash : "#" = String.ofList ['#'] := rfl
  rw [hnone, hhash, ← String.ofList_append, ← String.ofList_append]
  unfold Uri.text
  rw [h, List.append_assoc]
  rfl

namespace Leads

variable {docs : Documents} {u : Uri} {target target' : Target}

/-- The key is the text of the URI. -/
theorem key_eq (h : docs.Leads u target) : target.key = u.text := by
  cases h with
  | name _ _ => rfl
  | pointer hfragment _ _ _ => rw [text_of_fragment hfragment, String.ofList_toList]

/-- The URI says all. -/
theorem unique (h : docs.Leads u target) (h' : docs.Leads u target') : target = target' := by
  have hmixed : ∀ {pointer : String} {tokens : List String}, u.isAnchored = true →
      u.fragment = some pointer.toList → Pointer.parse? pointer ≠ some tokens := by
    intro pointer tokens hanchor hfragment htokens
    rw [Uri.isAnchored, hfragment, Option.any_some, not_isAnchor_of_parse? htokens] at hanchor
    cases hanchor
  cases h with
  | name hanchor hschema =>
    cases h' with
    | name _ hschema' =>
      obtain rfl := Option.some.inj (hschema.symm.trans hschema')
      rfl
    | pointer hfragment _ htokens _ => exact absurd htokens (hmixed hanchor hfragment)
  | pointer hfragment hroot htokens hfollow =>
    cases h' with
    | name hanchor _ => exact absurd htokens (hmixed hanchor hfragment)
    | pointer hfragment' hroot' htokens' hfollow' =>
      obtain rfl := String.toList_injective (Option.some.inj (hfragment.symm.trans hfragment'))
      obtain rfl := Option.some.inj (hroot.symm.trans hroot')
      obtain rfl := Option.some.inj (htokens.symm.trans htokens')
      obtain ⟨rfl, rfl⟩ := Prod.mk.inj (Option.some.inj (Except.ok.inj (hfollow.symm.trans hfollow')))
      rfl

theorem base_normal (h : docs.Leads u target) (hu : u.Normal) : target.base.Normal := by
  cases h with
  | name _ _ => exact hu.withoutFragment
  | pointer _ _ _ hfollow => exact follow_normal (hu.withFragment none) hfollow

end Leads

/-- What a reference from a base in normal form leads to. -/
theorem reached_of_resolve {docs : Documents} {base : Uri} {reference : String} {target : Target}
    (hbase : base.Normal) (h : docs.resolve base reference = .ok target) : docs.Reached target := by
  obtain ⟨u, hu, hfound⟩ := exists_foundAt h
  have hnormal := resolveUri_normal hbase hu
  cases hfound with
  | name hanchor hschema => exact ⟨u, hnormal, .name hanchor hschema⟩
  | @pointer _ _ _ pointer _ _ hroot _ htokens hfollow =>
    exact ⟨_, hnormal.withoutFragment.withFragment (some (String.ofList pointer).toList),
      .pointer rfl hroot htokens hfollow⟩

namespace Reached

variable {docs : Documents} {target target' : Target}

theorem base_normal (h : docs.Reached target) : target.base.Normal := by
  obtain ⟨u, hu, hleads⟩ := h
  exact hleads.base_normal hu

/-- **Keys tell targets apart.** -/
theorem eq_of_key_eq (h : docs.Reached target) (h' : docs.Reached target') (hkey : target.key = target'.key) :
    target = target' := by
  obtain ⟨u, hu, hleads⟩ := h
  obtain ⟨v, hv, hleads'⟩ := h'
  rw [hleads.key_eq, hleads'.key_eq] at hkey
  obtain rfl := hu.text_injective hv hkey
  exact hleads.unique hleads'

end Reached

end Documents

end JsonSchema
