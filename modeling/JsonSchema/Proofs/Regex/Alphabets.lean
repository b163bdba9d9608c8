import JsonSchema.Proofs.Regex.Languages

/-!
# What expressions see of a text

An expression sees the characters of a text by the sets that it asks for (`Regex.sets`).  **Texts that a map makes
the same are matched alike, if the map leaves each character in the sets that it is in**
(`Regex.isMatch_eq_of_map`), and the words of an expression hold nothing that is in none of its sets
(`Regex.exists_set_of_mem_language`).

Expressions that ignore case begin with a flag that takes no characters (`Regex.flagged`).
-/

set_option autoImplicit false

namespace JsonSchema.Regex

open Computability

/-- The sets of characters that an expression asks for. -/
def sets : Regex → List CharSet
  | empty | look _ => []
  | chars set => [set]
  | seq a b | alt a b => a.sets ++ b.sets
  | «repeat» body _ _ => body.sets

/-- Of positions an expression asks no more than whether they are the first or the last. -/
def looksAtEnds : Regex → Bool
  | empty | chars _ | look .start | look .finish => true
  | look _ => false
  | seq a b | alt a b => a.looksAtEnds && b.looksAtEnds
  | «repeat» body _ _ => body.looksAtEnds

/-! ## Maps of characters -/

section Blind

variable {f : Char → Char} {r : Regex} {text : List Char} {i j : Nat}

/-- A map moves no character into or out of a set that an expression asks for. -/
def Blind (f : Char → Char) (r : Regex) : Prop :=
  ∀ set ∈ r.sets, ∀ c, set.contains (f c).toNat = set.contains c.toNat

theorem Blind.parts {a b : Regex} (h : ∀ set ∈ a.sets ++ b.sets, ∀ c, set.contains (f c).toNat = set.contains c.toNat) :
    a.Blind f ∧ b.Blind f :=
  ⟨fun set hset => h set (List.mem_append_left _ hset), fun set hset => h set (List.mem_append_right _ hset)⟩

/-- Whether a character is missing does not depend on which one it is. -/
theorem before?_map (text : List Char) (i : Nat) : before? (text.map f) i = (before? text i).map f := by
  cases i with
  | zero => rfl
  | succ i => exact List.getElem?_map

theorem describes_map (hlook : r.looksAtEnds = true) (hblind : r.Blind f) :
    r.Describes (text.map f) i j ↔ r.Describes text i j := by
  induction r generalizing i j with
  | empty => exact Iff.rfl
  | chars set =>
    have hset : ∀ c, set.contains (f c).toNat = set.contains c.toNat := hblind set List.mem_cons_self
    simp only [Describes, List.getElem?_map]
    cases text[i]? <;> simp [hset]
  | look a =>
    simp only [Describes, before?_map, List.getElem?_map, List.length_map]
    cases a with
    | start | finish => simp only [Assertion.holds, Option.isNone_map]
    | _ => cases hlook
  | seq a b iha ihb =>
    obtain ⟨hla, hlb⟩ := Bool.and_eq_true_iff.mp hlook
    obtain ⟨ha, hb⟩ := Blind.parts hblind
    exact exists_congr fun k => and_congr (iha hla ha) (ihb hlb hb)
  | alt a b iha ihb =>
    obtain ⟨hla, hlb⟩ := Bool.and_eq_true_iff.mp hlook
    obtain ⟨ha, hb⟩ := Blind.parts hblind
    exact or_congr (iha hla ha) (ihb hlb hb)
  | «repeat» body least most ih =>
    have hbody : body.Describes (text.map f) = body.Describes text :=
      funext₂ fun i j => propext (ih hlook hblind)
    simp only [Describes, hbody]

/-- **Texts that are the same under a map are matched alike**, if the map keeps the sets of the expression. -/
theorem isMatch_eq_of_map (hlook : r.looksAtEnds = true) (hblind : r.Blind f) {s t : String}
    (h : s.toList.map f = t.toList.map f) : r.isMatch s = r.isMatch t := by
  have hlength : s.toList.length = t.toList.length := by
    rw [← List.length_map f, h, List.length_map]
  rw [Bool.eq_iff_iff, isMatch_iff, isMatch_iff, hlength]
  have hdescribes : ∀ i j, r.Describes s.toList i j ↔ r.Describes t.toList i j := by
    intro i j
    rw [← describes_map hlook hblind, h, describes_map hlook hblind]
  simp only [hdescribes]

end Blind

/-! ## Characters of words -/

/-- **Each character of a word is in a set that the expression asks for.** -/
theorem exists_set_of_mem_language {r : Regex} {w : List Char} (hw : w ∈ r.language) {c : Char} (hc : c ∈ w) :
    ∃ set ∈ r.sets, set.contains c.toNat = true := by
  induction r generalizing w with
  | empty =>
    rw [(Language.mem_one w).mp hw] at hc
    cases hc
  | chars set =>
    obtain ⟨d, hd, rfl⟩ := mem_language_chars.mp hw
    obtain rfl := List.mem_singleton.mp hc
    exact ⟨set, List.mem_cons_self, hd⟩
  | look a => cases hw
  | seq a b iha ihb =>
    obtain ⟨u, hu, v, hv, rfl⟩ := mem_language_seq.mp hw
    rcases List.mem_append.mp hc with hc | hc
    · obtain ⟨set, hset, hcontains⟩ := iha hu hc
      exact ⟨set, List.mem_append_left _ hset, hcontains⟩
    · obtain ⟨set, hset, hcontains⟩ := ihb hv hc
      exact ⟨set, List.mem_append_right _ hset, hcontains⟩
  | alt a b iha ihb =>
    rcases mem_language_alt.mp hw with hw | hw
    · obtain ⟨set, hset, hcontains⟩ := iha hw hc
      exact ⟨set, List.mem_append_left _ hset, hcontains⟩
    · obtain ⟨set, hset, hcontains⟩ := ihb hw hc
      exact ⟨set, List.mem_append_right _ hset, hcontains⟩
  | «repeat» body least most ih =>
    obtain ⟨n, -, -, hn⟩ := mem_language_repeat.mp hw
    obtain ⟨words, rfl, -, hwords⟩ := Language.mem_pow.mp hn
    obtain ⟨word, hword, hc⟩ := List.mem_flatten.mp hc
    exact ih (hwords word hword) hc

/-! ## Expressions with a flag in front -/

/-- Parts between the start and the end of a text, with a flag in front. -/
def flagged (parts : List Regex) : Regex := seq empty (anchored parts)

/-- A character in any case. -/
def anyCase (c : Char) : Regex := chars (.foldCase (.single c))

theorem isMatch_flagged {parts : List Regex} (hparts : ∀ p ∈ parts, p.hasNoLook = true) (text : String) :
    (flagged parts).isMatch text = true ↔ text.toList ∈ (parts.map language).prod := by
  have hempty : ∀ i j, (flagged parts).Describes text.toList i j ↔ (anchored parts).Describes text.toList i j :=
    fun i j => ⟨fun ⟨_, rfl, h⟩ => h, fun h => ⟨i, rfl, h⟩⟩
  rw [← isMatch_anchored hparts, isMatch_iff, isMatch_iff]
  simp only [hempty]

theorem looksAtEnds_of_hasNoLook {r : Regex} (h : r.hasNoLook = true) : r.looksAtEnds = true := by
  induction r with
  | empty | chars => rfl
  | look => cases h
  | seq a b iha ihb | alt a b iha ihb =>
    obtain ⟨ha, hb⟩ := Bool.and_eq_true_iff.mp h
    exact Bool.and_eq_true_iff.mpr ⟨iha ha, ihb hb⟩
  | «repeat» body least most ih => exact ih h

/-- An expression without assertions that asks for sets of one kind. -/
def asksOnly (kind : CharSet → Bool) (r : Regex) : Bool := r.hasNoLook && r.sets.all kind

section Parts

variable {kind : CharSet → Bool} {parts : List Regex}

theorem hasNoLook_of_asksOnly (hparts : ∀ p ∈ parts, p.asksOnly kind = true) : ∀ p ∈ parts, p.hasNoLook = true :=
  fun p hp => (Bool.and_eq_true_iff.mp (hparts p hp)).1

theorem kind_of_asksOnly {p : Regex} (hp : p.asksOnly kind = true) : ∀ set ∈ p.sets, kind set = true :=
  List.all_eq_true.mp (Bool.and_eq_true_iff.mp hp).2

/-- **Texts that are the same under a map are matched alike**, if the map keeps all sets of the kind. -/
theorem isMatch_flagged_eq_of_map {f : Char → Char} (hparts : ∀ p ∈ parts, p.asksOnly kind = true)
    (hkind : ∀ set, kind set = true → ∀ c, set.contains (f c).toNat = set.contains c.toNat) {s t : String}
    (h : s.toList.map f = t.toList.map f) : (flagged parts).isMatch s = (flagged parts).isMatch t := by
  have hfold : (parts.foldr seq (look .finish)).looksAtEnds = true ∧ (parts.foldr seq (look .finish)).Blind f := by
    induction parts with
    | nil => exact ⟨rfl, fun _ hset => nomatch hset⟩
    | cons p parts ih =>
      obtain ⟨hp, hparts⟩ := List.forall_mem_cons.mp hparts
      obtain ⟨hlook, hblind⟩ := ih hparts
      have hfirst := looksAtEnds_of_hasNoLook (Bool.and_eq_true_iff.mp hp).1
      refine ⟨Bool.and_eq_true_iff.mpr ⟨hfirst, hlook⟩, fun set hset => ?_⟩
      rcases List.mem_append.mp hset with hset | hset
      · exact hkind set (kind_of_asksOnly hp set hset)
      · exact hblind set hset
  exact isMatch_eq_of_map (r := flagged parts) hfold.1 hfold.2 h

/-- Each character of a text that parts match is in a set of the kind. -/
theorem exists_set_of_isMatch_flagged (hparts : ∀ p ∈ parts, p.asksOnly kind = true) {s : String}
    (hmatch : (flagged parts).isMatch s = true) {c : Char} (hc : c ∈ s.toList) :
    ∃ set, kind set = true ∧ set.contains c.toNat = true := by
  rw [isMatch_flagged (hasNoLook_of_asksOnly hparts)] at hmatch
  generalize s.toList = w at hmatch hc
  induction parts generalizing w with
  | nil =>
    rw [(Language.mem_one w).mp hmatch] at hc
    cases hc
  | cons p parts ih =>
    obtain ⟨hp, hparts⟩ := List.forall_mem_cons.mp hparts
    obtain ⟨u, hu, v, hv, rfl⟩ := Language.mem_mul.mp hmatch
    rcases List.mem_append.mp hc with hc | hc
    · obtain ⟨set, hset, hcontains⟩ := exists_set_of_mem_language hu hc
      exact ⟨set, kind_of_asksOnly hp set hset, hcontains⟩
    · exact ih hparts v hv hc

end Parts

end JsonSchema.Regex
