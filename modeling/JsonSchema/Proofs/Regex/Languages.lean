import JsonSchema.Proofs.Regex.Matching
import Mathlib.Computability.Language

/-!
# Languages of expressions

What an expression without assertions describes depends on the stretch alone, and not on what stands around it:
it has a language (`Regex.language`), made by the operations of language algebra.  Most expressions that a
format uses are a number of such parts with the start of the text in front and the end behind
(`Regex.anchored`).  **They match a text if and only if the text is in the product of the parts' languages**
(`Regex.isMatch_anchored`).
-/

set_option autoImplicit false

namespace JsonSchema

open Computability

/-! ## Stretches that are words of a language -/

/-- From each position of a text a relation leads to the ends of the words of a language that follow there. -/
def Spells (text : List Char) (R : Nat → Nat → Prop) (L : Language Char) : Prop :=
  ∀ front rest, text = front ++ rest → ∀ j,
    R front.length j ↔ ∃ w back, w ∈ L ∧ rest = w ++ back ∧ j = (front ++ w).length

namespace Spells

variable {text : List Char} {R S : Nat → Nat → Prop} {L M : Language Char}

theorem one : Spells text Eq 1 := by
  intro front rest _ j
  constructor
  · rintro rfl
    exact ⟨[], rest, Language.nil_mem_one, rfl, by rw [List.append_nil]⟩
  · rintro ⟨w, back, hw, -, rfl⟩
    rw [(Language.mem_one w).mp hw, List.append_nil]

theorem mul (ha : Spells text R L) (hb : Spells text S M) :
    Spells text (fun i j => ∃ k, R i k ∧ S k j) (L * M) := by
  intro front rest htext j
  constructor
  · rintro ⟨k, hfirst, hsecond⟩
    obtain ⟨v, back, hv, rfl, rfl⟩ := (ha front rest htext k).mp hfirst
    have hnext : text = (front ++ v) ++ back := by rw [htext, List.append_assoc]
    obtain ⟨w, back, hw, rfl, rfl⟩ := (hb (front ++ v) back hnext j).mp hsecond
    exact ⟨v ++ w, back, Language.append_mem_mul hv hw, (List.append_assoc v w back).symm, by simp⟩
  · rintro ⟨_, back, hvw, rfl, rfl⟩
    obtain ⟨v, hv, w, hw, rfl⟩ := Language.mem_mul.mp hvw
    have hnext : text = (front ++ v) ++ (w ++ back) := by rw [htext]; simp
    exact ⟨(front ++ v).length, (ha front _ htext _).mpr ⟨v, w ++ back, hv, List.append_assoc v w back, rfl⟩,
      (hb (front ++ v) _ hnext _).mpr ⟨w, back, hw, rfl, by simp⟩⟩

theorem add (ha : Spells text R L) (hb : Spells text S M) : Spells text (fun i j => R i j ∨ S i j) (L + M) := by
  intro front rest htext j
  dsimp only
  rw [ha front rest htext j, hb front rest htext j]
  constructor
  · rintro (⟨w, back, hw, h⟩ | ⟨w, back, hw, h⟩)
    · exact ⟨w, back, (Language.mem_add L M w).mpr (.inl hw), h⟩
    · exact ⟨w, back, (Language.mem_add L M w).mpr (.inr hw), h⟩
  · rintro ⟨w, back, hw, h⟩
    exact ((Language.mem_add L M w).mp hw).imp (fun hw => ⟨w, back, hw, h⟩) fun hw => ⟨w, back, hw, h⟩

theorem congr (h : Spells text R L) (hRS : ∀ i j, S i j ↔ R i j) : Spells text S L := by
  intro front rest htext j
  rw [hRS, h front rest htext j]

theorem pow (h : Spells text R L) (n : Nat) : Spells text (Repeated R n) (L ^ n) := by
  induction n with
  | zero =>
    rw [pow_zero]
    exact one.congr fun _ _ => Repeated.zero_iff
  | succ n ih =>
    rw [pow_succ']
    exact (h.mul ih).congr fun _ _ => Repeated.succ_iff

end Spells

/-! ## Sets of characters -/

-- with these, that a text is read as an expression can be decided
deriving instance DecidableEq for CharSet
deriving instance DecidableEq for Assertion
deriving instance DecidableEq for Regex

namespace CharSet

theorem contains_range {first last c : Char} :
    (range first.toNat last.toNat).contains c.toNat = true ↔ first ≤ c ∧ c ≤ last := by
  simp [contains, Char.le_def, UInt32.le_iff_toNat_le]

theorem contains_single {c d : Char} : (single c).contains d.toNat = true ↔ d = c := by
  rw [single, contains_range]
  exact ⟨fun ⟨hle, hge⟩ => Char.le_antisymm hge hle, fun h => h ▸ ⟨Char.le_refl _, Char.le_refl _⟩⟩

theorem contains_empty {n : Nat} : empty.contains n = false := by
  simp only [empty, contains, Bool.and_eq_false_iff, decide_eq_false_iff_not]
  omega

theorem contains_foldl_union (sets : List CharSet) (start : CharSet) {n : Nat} :
    (sets.foldl union start).contains n = true ↔ start.contains n = true ∨ ∃ s ∈ sets, s.contains n = true := by
  induction sets generalizing start with
  | nil => simp
  | cons s rest ih =>
    rw [List.foldl_cons, ih]
    simp [contains, or_assoc]

theorem contains_unionAll {sets : List CharSet} {n : Nat} :
    (unionAll sets).contains n = true ↔ ∃ s ∈ sets, s.contains n = true := by
  rw [unionAll, contains_foldl_union, contains_empty]
  simp

end CharSet

namespace Regex

/-! ## Expressions without assertions -/

def hasNoLook : Regex → Bool
  | empty | chars _ => true
  | look _ => false
  | seq a b | alt a b => a.hasNoLook && b.hasNoLook
  | «repeat» body _ _ => body.hasNoLook

/-- The texts that an expression without assertions describes as a whole. -/
def language : Regex → Language Char
  | empty => 1
  | chars set => {w | ∃ c, set.contains c.toNat = true ∧ w = [c]}
  | look _ => 0
  | seq a b => a.language * b.language
  | alt a b => a.language + b.language
  | «repeat» body least most => {w | ∃ n, least ≤ n ∧ (∀ m ∈ most, n ≤ max least m) ∧ w ∈ body.language ^ n}

theorem mem_language_chars {set : CharSet} {w : List Char} :
    w ∈ (chars set).language ↔ ∃ c, set.contains c.toNat = true ∧ w = [c] := Iff.rfl

theorem mem_language_seq {a b : Regex} {w : List Char} :
    w ∈ (seq a b).language ↔ ∃ u ∈ a.language, ∃ v ∈ b.language, u ++ v = w := Language.mem_mul

theorem mem_language_alt {a b : Regex} {w : List Char} :
    w ∈ (alt a b).language ↔ w ∈ a.language ∨ w ∈ b.language := Language.mem_add _ _ _

theorem mem_language_repeat {body : Regex} {least : Nat} {most : Option Nat} {w : List Char} :
    w ∈ («repeat» body least most).language ↔
      ∃ n, least ≤ n ∧ (∀ m ∈ most, n ≤ max least m) ∧ w ∈ body.language ^ n := Iff.rfl

/-- Repeating without bounds is the star of language algebra. -/
theorem language_star (body : Regex) : («repeat» body 0 none).language = body.language∗ := by
  ext w
  rw [mem_language_repeat, Language.kstar_eq_iSup_pow, Language.mem_iSup]
  simp

theorem mem_language_star_chars {set : CharSet} {w : List Char} :
    w ∈ («repeat» (chars set) 0 none).language ↔ ∀ c ∈ w, set.contains c.toNat = true := by
  rw [language_star, Language.mem_kstar]
  constructor
  · rintro ⟨words, rfl, hwords⟩ c hc
    obtain ⟨word, hword, hc⟩ := List.mem_flatten.mp hc
    obtain ⟨d, hd, rfl⟩ := mem_language_chars.mp (hwords word hword)
    rwa [List.mem_singleton.mp hc]
  · intro hw
    refine ⟨w.map fun c => [c], (List.flatMap_singleton' w).symm, fun word hword => ?_⟩
    obtain ⟨c, hc, rfl⟩ := List.mem_map.mp hword
    exact mem_language_chars.mpr ⟨c, hw c hc, rfl⟩

/-- Behind what stands in front comes the first character of what is left. -/
theorem getElem?_front {text front rest : List Char} (h : text = front ++ rest) :
    text[front.length]? = rest.head? := by
  rw [h, List.getElem?_append_right (Nat.le_refl _), Nat.sub_self, List.head?_eq_getElem?]

/-- **An expression without assertions describes the words of its language.** -/
theorem spells (text : List Char) {r : Regex} (h : r.hasNoLook = true) :
    Spells text (r.Describes text) r.language := by
  induction r with
  | empty => exact Spells.one
  | chars set =>
    intro front rest htext j
    simp only [Describes, getElem?_front htext, mem_language_chars]
    constructor
    · rintro ⟨⟨c, hc, hset⟩, rfl⟩
      obtain ⟨back, rfl⟩ := List.head?_eq_some_iff.mp hc
      exact ⟨[c], back, ⟨c, hset, rfl⟩, rfl, by simp⟩
    · rintro ⟨_, back, ⟨c, hset, rfl⟩, rfl, rfl⟩
      exact ⟨⟨c, rfl, hset⟩, by simp⟩
  | look a => cases h
  | seq a b iha ihb =>
    obtain ⟨ha, hb⟩ := Bool.and_eq_true_iff.mp h
    exact (iha ha).mul (ihb hb)
  | alt a b iha ihb =>
    obtain ⟨ha, hb⟩ := Bool.and_eq_true_iff.mp h
    exact (iha ha).add (ihb hb)
  | «repeat» body least most ih =>
    intro front rest htext j
    simp only [Describes, mem_language_repeat, (ih h).pow _ front rest htext j]
    constructor
    · rintro ⟨n, hleast, hmost, w, back, hw, hrest⟩
      exact ⟨w, back, ⟨n, hleast, hmost, hw⟩, hrest⟩
    · rintro ⟨w, back, ⟨n, hleast, hmost, hw⟩, hrest⟩
      exact ⟨n, hleast, hmost, w, back, hw, hrest⟩

/-! ## Expressions for whole texts -/

/-- Parts one after another, with the start of the text in front and the end behind. -/
def anchored (parts : List Regex) : Regex := seq (look .start) (parts.foldr seq (look .finish))

/-- Parts up to the end of the text describe what is left of it. -/
theorem describes_toEnd_iff {text : List Char} {parts : List Regex} (hparts : ∀ p ∈ parts, p.hasNoLook = true)
    {front rest : List Char} (htext : text = front ++ rest) :
    (∃ j, (parts.foldr seq (look .finish)).Describes text front.length j) ↔
      rest ∈ (parts.map language).prod := by
  induction parts generalizing front rest with
  | nil =>
    have hle : front.length ≤ text.length := by simp [htext]
    simp [Describes, Assertion.holds, getElem?_front htext, hle, Language.mem_one]
  | cons p parts ih =>
    obtain ⟨hp, hparts⟩ := List.forall_mem_cons.mp hparts
    rw [List.foldr_cons, List.map_cons, List.prod_cons, Language.mem_mul]
    constructor
    · rintro ⟨j, k, hfirst, hrest⟩
      obtain ⟨w, back, hw, rfl, rfl⟩ := (spells text hp front rest htext k).mp hfirst
      have hnext : text = (front ++ w) ++ back := by rw [htext, List.append_assoc]
      exact ⟨w, hw, back, (ih hparts hnext).mp ⟨j, hrest⟩, rfl⟩
    · rintro ⟨w, hw, back, hback, rfl⟩
      have hnext : text = (front ++ w) ++ back := by rw [htext, List.append_assoc]
      obtain ⟨j, hj⟩ := (ih hparts hnext).mpr hback
      exact ⟨j, (front ++ w).length, (spells text hp front _ htext _).mpr ⟨w, back, hw, rfl, rfl⟩, hj⟩

/-- **Parts between the start and the end match the product of their languages.** -/
theorem isMatch_anchored {parts : List Regex} (hparts : ∀ p ∈ parts, p.hasNoLook = true) (text : String) :
    (anchored parts).isMatch text = true ↔ text.toList ∈ (parts.map language).prod := by
  have hstart : ∀ i, i ≤ text.toList.length →
      (Assertion.start.holds (before? text.toList i) text.toList[i]? = true ↔ i = 0) := by
    intro i hi
    cases i with
    | zero => simp [Assertion.holds, before?]
    | succ i => simpa [Assertion.holds, before?] using Nat.lt_of_succ_le hi
  rw [isMatch_iff, ← describes_toEnd_iff hparts (List.nil_append text.toList).symm]
  constructor
  · rintro ⟨i, j, hi, k, ⟨⟨-, hlook⟩, rfl⟩, hj⟩
    obtain rfl := (hstart i hi).mp hlook
    exact ⟨j, hj⟩
  · rintro ⟨j, hj⟩
    exact ⟨0, j, Nat.zero_le _, 0, ⟨⟨Nat.zero_le _, (hstart 0 (Nat.zero_le _)).mpr rfl⟩, rfl⟩, hj⟩

end Regex

/-! ## Stars of written words -/

/-- If the words of a language are what things are written as, then those of its star are what lists of things
    are written as. -/
theorem mem_kstar_iff_flatMap {α : Type} {write : α → List Char} {L : Language Char}
    (h : ∀ w, w ∈ L ↔ ∃ a, w = write a) (w : List Char) : w ∈ L∗ ↔ ∃ as : List α, w = as.flatMap write := by
  rw [Language.mem_kstar]
  constructor
  · rintro ⟨words, rfl, hwords⟩
    induction words with
    | nil => exact ⟨[], rfl⟩
    | cons word words ih =>
      obtain ⟨hword, hrest⟩ := List.forall_mem_cons.mp hwords
      obtain ⟨a, rfl⟩ := (h word).mp hword
      obtain ⟨as, has⟩ := ih hrest
      exact ⟨a :: as, by rw [List.flatten_cons, has, List.flatMap_cons]⟩
  · rintro ⟨as, rfl⟩
    refine ⟨as.map write, List.flatMap_def, fun word hword => ?_⟩
    obtain ⟨a, -, rfl⟩ := List.mem_map.mp hword
    exact (h _).mpr ⟨a, rfl⟩

end JsonSchema
