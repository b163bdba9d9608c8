import JsonSchema.Unicode.CharSet

/-!
# Case variants of ASCII letters

Two characters beyond ASCII have case variants in ASCII, the long s and the Kelvin sign, and they are taken for
`s` and `k` wherever case is ignored.  `Unicode.plainLetter` replaces them.  A set that is closed under case
variants makes no difference between a character and its plain letter, and **closing a set of ASCII characters
adds nothing but characters whose plain letter is ASCII** (`CharSet.plain_of_contains`).
-/

set_option autoImplicit false

namespace JsonSchema

namespace Unicode

/-! ## Plain letters -/

/-- A letter beyond ASCII with a case variant in ASCII as that variant: the long s and the Kelvin sign. -/
def plainLetter (c : Char) : Char :=
  if c = '\u017f' then 's' else if c = '\u212a' then 'k' else c

theorem plainLetter_cases (c : Char) :
    plainLetter c = c ∨ c = '\u017f' ∧ plainLetter c = 's' ∨ c = '\u212a' ∧ plainLetter c = 'k' := by
  unfold plainLetter
  split
  · next h => exact .inr (.inl ⟨h, rfl⟩)
  · split
    · next h => exact .inr (.inr ⟨h, rfl⟩)
    · exact .inl rfl

theorem plainLetter_of_ascii {c : Char} (h : c.toNat < 0x80) : plainLetter c = c := by
  rcases plainLetter_cases c with hc | ⟨rfl, -⟩ | ⟨rfl, -⟩
  · exact hc
  · exact absurd h (by decide)
  · exact absurd h (by decide)

theorem plainLetter_plainLetter (c : Char) : plainLetter (plainLetter c) = plainLetter c := by
  rcases plainLetter_cases c with h | ⟨-, h⟩ | ⟨-, h⟩
  · rw [h, h]
  · rw [h]
    rfl
  · rw [h]
    rfl

/-- No character but the two is made another one. -/
theorem plainLetter_eq_iff {c d : Char} (hd : d.toNat < 0x80) (hs : d ≠ 's') (hk : d ≠ 'k') :
    plainLetter c = d ↔ c = d := by
  constructor
  · intro h
    rcases plainLetter_cases c with hc | ⟨-, hc⟩ | ⟨-, hc⟩
    · rw [← hc, h]
    · exact absurd (h.symm.trans hc) hs
    · exact absurd (h.symm.trans hc) hk
  · rintro rfl
    exact plainLetter_of_ascii hd

/-- A plain letter takes no more bytes. -/
theorem utf8Size_plainLetter_le (c : Char) : (plainLetter c).utf8Size ≤ c.utf8Size := by
  rcases plainLetter_cases c with h | ⟨rfl, -⟩ | ⟨rfl, -⟩
  · exact Nat.le_of_eq (congrArg Char.utf8Size h)
  · decide
  · decide

/-- Texts with their letters plain. -/
def plainText (s : String) : String := String.ofList (s.toList.map plainLetter)

theorem plainText_toList (s : String) : (plainText s).toList = s.toList.map plainLetter := String.toList_ofList

theorem forall_mem_plainText {s : String} {p : Char → Prop} :
    (∀ c ∈ (plainText s).toList, p c) ↔ ∀ c ∈ s.toList, p (plainLetter c) := by
  rw [plainText_toList, List.forall_mem_map]

theorem plainText_of_plain {s : String} (h : ∀ c ∈ s.toList, plainLetter c = c) : plainText s = s := by
  rw [plainText, List.map_congr_left h, List.map_id', String.ofList_toList]

theorem plainText_plainText (s : String) : plainText (plainText s) = plainText s := by
  refine plainText_of_plain fun c hc => ?_
  rw [plainText_toList] at hc
  obtain ⟨d, -, rfl⟩ := List.mem_map.mp hc
  exact plainLetter_plainLetter d

theorem lt_of_isAlphanum {c : Char} (h : c.isAlphanum = true) : c.toNat < 0x80 := by
  have hunfold : c.isAlphanum = (decide ('A'.val ≤ c.val ∧ c.val ≤ 'Z'.val) ||
      decide ('a'.val ≤ c.val) && decide (c.val ≤ 'z'.val) ||
      decide ('0'.val ≤ c.val) && decide (c.val ≤ '9'.val)) := rfl
  have hrange : 65 ≤ c.toNat ∧ c.toNat ≤ 90 ∨ 97 ≤ c.toNat ∧ c.toNat ≤ 122 ∨ 48 ≤ c.toNat ∧ c.toNat ≤ 57 := by
    simpa [UInt32.le_iff_toNat_le, or_assoc] using hunfold.symm.trans h
  omega

/-! ## Folding into ASCII -/

theorem simpleFold_plainLetter (c : Char) : simpleFold (plainLetter c).toNat = simpleFold c.toNat := by
  rcases plainLetter_cases c with h | ⟨rfl, -⟩ | ⟨rfl, -⟩
  · rw [h]
  · decide +kernel
  · decide +kernel

theorem caseVariants_plainLetter (c : Char) : caseVariants (plainLetter c).toNat = caseVariants c.toNat := by
  rw [caseVariants, caseVariants, simpleFold_plainLetter]

/-- What is folded into ASCII is ASCII itself, the long s or the Kelvin sign. -/
theorem foldRuns_into_ascii : ∀ r ∈ foldRuns, r.target < 0x80 →
    r.high < 0x80 ∨ r.low = '\u017f'.toNat ∧ r.high = '\u017f'.toNat ∨
      r.low = '\u212a'.toNat ∧ r.high = '\u212a'.toNat := by
  decide +kernel

/-- A run that begins in ASCII leads into it. -/
theorem foldRuns_from_ascii : ∀ r ∈ foldRuns, r.low < 0x80 → r.target + (r.high - r.low) < 0x80 := by
  decide +kernel

theorem le_of_covers {r : CodeRun} {n : Nat} (h : r.covers n = true) : r.low ≤ n ∧ n ≤ r.high := by
  simp only [CodeRun.covers, Bool.and_eq_true, decide_eq_true_eq] at h
  exact h.1

theorem plain_of_simpleFold {c : Char} (h : simpleFold c.toNat < 0x80) : (plainLetter c).toNat < 0x80 := by
  rw [simpleFold, CodeRun.image?] at h
  cases hfind : foldRuns.find? (·.covers c.toNat) with
  | none =>
    rw [hfind] at h
    rwa [plainLetter_of_ascii h]
  | some r =>
    rw [hfind] at h
    have htarget : r.target < 0x80 := Nat.lt_of_le_of_lt (Nat.le_add_right _ _) h
    have hcovers := List.find?_some hfind
    obtain ⟨hlow, hhigh⟩ := le_of_covers hcovers
    rcases foldRuns_into_ascii r (List.mem_of_find?_eq_some hfind) htarget with hr | ⟨hl, hr⟩ | ⟨hl, hr⟩
    · have hc : c.toNat < 0x80 := Nat.lt_of_le_of_lt hhigh hr
      rwa [plainLetter_of_ascii hc]
    · obtain rfl : c = '\u017f' := Char.toNat_inj.mp (Nat.le_antisymm (hr ▸ hhigh) (hl ▸ hlow))
      decide
    · obtain rfl : c = '\u212a' := Char.toNat_inj.mp (Nat.le_antisymm (hr ▸ hhigh) (hl ▸ hlow))
      decide

/-- The form of a character with an ASCII variant is ASCII. -/
theorem simpleFold_lt_of_mem {n d : Nat} (hd : d ∈ caseVariants n) (hascii : d < 0x80) : simpleFold n < 0x80 := by
  rcases List.mem_cons.mp hd with rfl | hd
  · exact hascii
  · obtain ⟨r, hr, hsource⟩ := List.mem_filterMap.mp hd
    rw [CodeRun.source?, Option.ite_none_right_eq_some, Option.some.injEq, Bool.and_eq_true,
      decide_eq_true_eq] at hsource
    obtain ⟨⟨htarget, hcovers⟩, rfl⟩ := hsource
    have hrun := foldRuns_from_ascii r hr (Nat.lt_of_le_of_lt (Nat.le_add_right _ _) hascii)
    have hhigh := (le_of_covers hcovers).2
    omega

theorem plain_of_mem_caseVariants {c : Char} {d : Nat} (hd : d ∈ caseVariants c.toNat) (hascii : d < 0x80) :
    (plainLetter c).toNat < 0x80 := plain_of_simpleFold (simpleFold_lt_of_mem hd hascii)

end Unicode

namespace CharSet

open Unicode

/-! ## Sets of ASCII characters -/

/-- Ranges of ASCII characters, and what is made of them by union. -/
def inAscii : CharSet → Bool
  | range low high => decide (high < 0x80) || decide (high < low)
  | union a b => a.inAscii && b.inAscii
  | _ => false

theorem lt_of_contains {s : CharSet} (h : s.inAscii = true) {n : Nat} (hn : s.contains n = true) : n < 0x80 := by
  induction s with
  | range low high =>
    simp only [inAscii, contains, Bool.or_eq_true, Bool.and_eq_true, decide_eq_true_eq] at h hn
    omega
  | union a b iha ihb =>
    obtain ⟨ha, hb⟩ := Bool.and_eq_true_iff.mp h
    rcases Bool.or_eq_true_iff.mp hn with hn | hn
    · exact iha ha hn
    · exact ihb hb hn
  | table | inter | diff | compl | foldCase => cases h

/-- The case variants of some ASCII characters. -/
def isFoldedAscii : CharSet → Bool
  | foldCase set => set.inAscii
  | _ => false

/-- Such a set without letters that have a variant beyond ASCII. -/
def isPureAscii (set : CharSet) : Bool :=
  set.isFoldedAscii && !set.contains 's'.toNat && !set.contains 'k'.toNat

variable {set : CharSet}

theorem contains_plainLetter (h : set.isFoldedAscii = true) (c : Char) :
    set.contains (plainLetter c).toNat = set.contains c.toNat := by
  cases set with
  | foldCase set => rw [contains, contains, caseVariants_plainLetter]
  | range | table | union | inter | diff | compl => cases h

/-- **What has a case variant in a set of ASCII characters is ASCII, once it is a plain letter.** -/
theorem plain_of_contains (h : set.isFoldedAscii = true) {c : Char} (hc : set.contains c.toNat = true) :
    (plainLetter c).toNat < 0x80 := by
  cases set with
  | foldCase set =>
    obtain ⟨d, hd, hmem⟩ := List.any_eq_true.mp hc
    exact plain_of_mem_caseVariants hd (lt_of_contains h hmem)
  | range | table | union | inter | diff | compl => cases h

/-- A set in which neither `s` nor `k` has a variant holds nothing beyond ASCII. -/
theorem lt_of_contains_pure (h : set.isPureAscii = true) {c : Char} (hc : set.contains c.toNat = true) :
    c.toNat < 0x80 := by
  simp only [isPureAscii, Bool.and_eq_true, Bool.not_eq_true'] at h
  obtain ⟨⟨hfolded, hs⟩, hk⟩ := h
  have hplain := (contains_plainLetter hfolded c).trans hc
  rcases plainLetter_cases c with heq | ⟨-, heq⟩ | ⟨-, heq⟩
  · exact heq ▸ plain_of_contains hfolded hc
  · rw [heq, hs] at hplain
    cases hplain
  · rw [heq, hk] at hplain
    cases hplain

/-- A test of ASCII characters tells which plain letters are in a set if it does so within ASCII. -/
theorem contains_iff_plainLetter {p : Char → Bool} (h : set.isFoldedAscii = true)
    (hp : ∀ c, p c = true → c.toNat < 0x80) (htable : ∀ n < 0x80, set.contains n = p (Char.ofNat n)) (c : Char) :
    set.contains c.toNat = true ↔ p (plainLetter c) = true := by
  have hplain : ∀ d : Char, d.toNat < 0x80 → set.contains d.toNat = p d := by
    intro d hd
    rw [htable d.toNat hd, Char.ofNat_toNat]
  constructor
  · intro hc
    rw [← hplain _ (plain_of_contains h hc), contains_plainLetter h, hc]
  · intro hc
    rw [← contains_plainLetter h, hplain _ (hp _ hc), hc]

end CharSet

end JsonSchema
