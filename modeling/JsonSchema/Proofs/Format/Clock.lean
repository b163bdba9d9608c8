import JsonSchema.Format.Clock
import JsonSchema.Proofs.Regex.Alphabets
import JsonSchema.Proofs.Unicode.CaseVariants

/-!
# Digits of other scripts in dates and times

The patterns of times take the digits of all scripts for digits, and hours, minutes and seconds are read from ASCII
digits only.  So digits of other scripts pass behind the seconds, where no more than the pattern is asked for:
in the fraction of a second and in the zone.  **A time stays one if they are replaced by zeros, and is then ASCII**
(`Clock.isTime_plain`, `Clock.ascii_of_isTime`), and so does a date-time (`Clock.isDateTime_plain`,
`Clock.ascii_of_isDateTime`).  A date is ASCII as it stands.
-/

set_option autoImplicit false

namespace JsonSchema.Clock

open Unicode CharSet Regex

/-! ## Plain digits -/

/-- A digit of another script as zero. -/
def plainDigit (c : Char) : Char := if 0x80 ≤ c.toNat ∧ digits.contains c.toNat = true then '0' else c

theorem plainDigit_of_ascii {c : Char} (h : c.toNat < 0x80) : plainDigit c = c :=
  if_neg fun hc => Nat.not_le_of_lt h hc.1

theorem plainDigit_cases (c : Char) :
    plainDigit c = c ∨ 0x80 ≤ c.toNat ∧ digits.contains c.toNat = true ∧ plainDigit c = '0' := by
  unfold plainDigit
  split
  · next h => exact .inr ⟨h.1, h.2, rfl⟩
  · exact .inl rfl

theorem plainDigit_plainDigit (c : Char) : plainDigit (plainDigit c) = plainDigit c := by
  rcases plainDigit_cases c with h | ⟨-, -, h⟩
  · rw [h, h]
  · rw [h]
    exact plainDigit_of_ascii (by decide)

/-- Characters with digits of other scripts, from a position on, as zeros. -/
def plainFrom (n : Nat) (cs : List Char) : List Char := cs.take n ++ (cs.drop n).map plainDigit

/-- A text with such zeros. -/
def plainDigitsFrom (n : Nat) (s : String) : String := String.ofList (plainFrom n s.toList)

theorem plainDigitsFrom_toList (n : Nat) (s : String) : (plainDigitsFrom n s).toList = plainFrom n s.toList :=
  String.toList_ofList

theorem take_plainFrom {k n : Nat} (h : k ≤ n) (cs : List Char) : (plainFrom n cs).take k = cs.take k := by
  rcases Nat.le_or_le n cs.length with hn | hn
  · have hk : k ≤ (cs.take n).length := by rwa [List.length_take_of_le hn]
    rw [plainFrom, List.take_append_of_le_length hk, List.take_take, Nat.min_eq_left h]
  · rw [plainFrom, List.drop_eq_nil_of_le hn, List.take_of_length_le hn, List.map_nil, List.append_nil]

theorem drop_plainFrom {k n : Nat} (h : k ≤ n) (cs : List Char) :
    (plainFrom n cs).drop k = plainFrom (n - k) (cs.drop k) := by
  rcases Nat.le_or_le n cs.length with hn | hn
  · have hk : k ≤ (cs.take n).length := by rwa [List.length_take_of_le hn]
    rw [plainFrom, plainFrom, List.drop_append_of_le_length hk, List.drop_take, List.drop_drop,
      Nat.add_sub_cancel' h]
  · have hrest : (cs.drop k).length ≤ n - k := by
      rw [List.length_drop]
      omega
    rw [plainFrom, plainFrom, List.drop_eq_nil_of_le hn, List.take_of_length_le hn, List.drop_eq_nil_of_le hrest,
      List.take_of_length_le hrest, List.map_nil, List.append_nil, List.append_nil]

theorem map_plainFrom (n : Nat) (cs : List Char) : (plainFrom n cs).map plainDigit = cs.map plainDigit := by
  have htwice : plainDigit ∘ plainDigit = plainDigit := funext plainDigit_plainDigit
  rw [plainFrom, List.map_append, List.map_map, htwice, ← List.map_append, List.take_append_drop]

/-! ## The sets of the patterns -/

/-- The digits of all scripts, or ASCII characters without zero and without variants beyond ASCII. -/
def isClockSet (set : CharSet) : Bool :=
  decide (set = digits) || set.isPureAscii && !set.contains '0'.toNat

theorem isClockSet_cases {set : CharSet} (h : isClockSet set = true) :
    set = digits ∨ set.isPureAscii = true ∧ set.contains '0'.toNat = false := by
  simpa only [isClockSet, Bool.or_eq_true, Bool.and_eq_true, decide_eq_true_eq, Bool.not_eq_true'] using h

/-- The patterns make no difference between digits of scripts. -/
theorem contains_plainDigit {set : CharSet} (h : isClockSet set = true) (c : Char) :
    set.contains (plainDigit c).toNat = set.contains c.toNat := by
  rcases plainDigit_cases c with hc | ⟨hbeyond, hdigit, hc⟩
  · rw [hc]
  · rw [hc]
    rcases isClockSet_cases h with rfl | ⟨hpure, hzero⟩
    · rw [hdigit]
      decide +kernel
    · have hout : set.contains c.toNat = false :=
        Bool.eq_false_iff.mpr fun hin => Nat.not_le_of_lt (lt_of_contains_pure hpure hin) hbeyond
      rw [hzero, hout]

theorem lt_of_contains_clockSet {set : CharSet} (h : isClockSet set = true) {c : Char}
    (hc : set.contains c.toNat = true) : (plainDigit c).toNat < 0x80 := by
  rcases Nat.lt_or_ge c.toNat 0x80 with hascii | hbeyond
  · rwa [plainDigit_of_ascii hascii]
  · rcases isClockSet_cases h with rfl | ⟨hpure, -⟩
    · rw [plainDigit, if_pos ⟨hbeyond, hc⟩]
      decide
    · exact absurd (lt_of_contains_pure hpure hc) (Nat.not_lt_of_le hbeyond)

/-! ## The patterns -/

def digit : Regex := .chars digits

def pair : Regex := .seq digit digit

def colon : Regex := anyCase ':'

/-- Hours, minutes and seconds. -/
def fields : List Regex := [pair, colon, pair, colon, pair]

/-- A fraction of a second, or none. -/
def fraction : Regex := .repeat (.seq (anyCase '.') (.repeat digit 1 none)) 0 (some 1)

def zone : Regex :=
  .alt (anyCase 'z')
    (.seq (.chars (foldCase (unionAll [single '+', single '-'])))
      (.seq digit (.seq digit (.repeat (.seq (.repeat colon 0 (some 1)) pair) 0 (some 1)))))

/-- What stands behind the seconds. -/
def timeTail : List Regex := [fraction, .repeat zone 0 (some 1)]

def zonedTail : List Regex := [fraction, zone]

theorem timePattern_eq : timePattern = some (flagged (fields ++ timeTail)) := by decide +kernel

theorem zonedTimePattern_eq : zonedTimePattern = some (flagged (fields ++ zonedTail)) := by decide +kernel

theorem fields_asksOnly : ∀ p ∈ fields, p.asksOnly isClockSet = true := by decide +kernel

theorem timeTail_asksOnly : ∀ p ∈ timeTail, p.asksOnly isClockSet = true := by decide +kernel

theorem zonedTail_asksOnly : ∀ p ∈ zonedTail, p.asksOnly isClockSet = true := by decide +kernel

theorem exists_pair {w : List Char} (h : w ∈ pair.language) : ∃ a b, w = [a, b] := by
  obtain ⟨_, ⟨a, -, rfl⟩, _, ⟨b, -, rfl⟩, rfl⟩ := mem_language_seq.mp h
  exact ⟨a, b, rfl⟩

theorem exists_colon {w : List Char} (h : w ∈ colon.language) : ∃ c : Char, c.toNat < 0x80 ∧ w = [c] := by
  obtain ⟨c, hc, rfl⟩ := mem_language_chars.mp h
  have hpure : (foldCase (single ':')).isPureAscii = true := by decide +kernel
  exact ⟨c, lt_of_contains_pure hpure hc, rfl⟩

/-! ## Digits that are read -/

theorem isDigit_of_digits? {cs : List Char} {n : Nat} (h : digits? cs = some n) : ∀ c ∈ cs, c.isDigit = true := by
  unfold digits? at h
  split at h
  · next hall => exact List.all_eq_true.mp hall
  · cases h

theorem lt_of_isDigit {c : Char} (h : c.isDigit = true) : c.toNat < 0x80 :=
  lt_of_isAlphanum (Bool.or_eq_true_iff.mpr (.inr h))

theorem lt_of_digits? {cs : List Char} {n : Nat} (h : digits? cs = some n) : ∀ c ∈ cs, c.toNat < 0x80 :=
  fun c hc => lt_of_isDigit (isDigit_of_digits? h c hc)

theorem ascii_of_isClock {s : String} {h1 h2 x m1 m2 y s1 s2 : Char} {rest : List Char} (h : isClock s = true)
    (hs : s.toList = h1 :: h2 :: x :: m1 :: m2 :: y :: s1 :: s2 :: rest) (hx : x.toNat < 0x80)
    (hy : y.toNat < 0x80) : ∀ c ∈ s.toList.take 8, c.toNat < 0x80 := by
  rw [isClock, hs] at h
  dsimp only at h
  split at h
  · next hour minute second =>
    have hhour := lt_of_digits? hour
    have hminute := lt_of_digits? minute
    have hsecond := lt_of_digits? second
    simp only [List.forall_mem_cons] at hhour hminute hsecond
    simp [hs, hhour, hminute, hsecond, hx, hy]
  · cases h

/-- A clock is read from the first eight characters. -/
theorem isClock_take (cs : List Char) : isClock (String.ofList (cs.take 8)) = isClock (String.ofList cs) := by
  unfold isClock
  rw [String.toList_ofList, String.toList_ofList]
  rcases cs with _ | ⟨a, _ | ⟨b, _ | ⟨c, _ | ⟨d, _ | ⟨e, _ | ⟨f, _ | ⟨g, _ | ⟨h, rest⟩⟩⟩⟩⟩⟩⟩⟩ <;> rfl

/-! ## Times -/

section Pattern

variable {tail : List Regex} {s : String}

theorem asksOnly_append (htail : ∀ p ∈ tail, p.asksOnly isClockSet = true) :
    ∀ p ∈ fields ++ tail, p.asksOnly isClockSet = true :=
  List.forall_mem_append.mpr ⟨fields_asksOnly, htail⟩

theorem exists_fields (htail : ∀ p ∈ tail, p.asksOnly isClockSet = true)
    (h : (flagged (fields ++ tail)).isMatch s = true) :
    ∃ h1 h2 x m1 m2 y s1 s2 rest, s.toList = h1 :: h2 :: x :: m1 :: m2 :: y :: s1 :: s2 :: rest ∧
      x.toNat < 0x80 ∧ y.toNat < 0x80 := by
  rw [isMatch_flagged (hasNoLook_of_asksOnly (asksOnly_append htail))] at h
  simp only [fields, List.cons_append, List.nil_append, List.map_cons, List.prod_cons, Language.mem_mul] at h
  obtain ⟨_, hhour, _, ⟨_, hx, _, ⟨_, hminute, _, ⟨_, hy, _, ⟨_, hsecond, rest, -, rfl⟩, rfl⟩, rfl⟩, rfl⟩, hs⟩ := h
  obtain ⟨h1, h2, rfl⟩ := exists_pair hhour
  obtain ⟨x, hxAscii, rfl⟩ := exists_colon hx
  obtain ⟨m1, m2, rfl⟩ := exists_pair hminute
  obtain ⟨y, hyAscii, rfl⟩ := exists_colon hy
  obtain ⟨s1, s2, rfl⟩ := exists_pair hsecond
  exact ⟨h1, h2, x, m1, m2, y, s1, s2, rest, hs.symm, hxAscii, hyAscii⟩

theorem isMatch_plain (htail : ∀ p ∈ tail, p.asksOnly isClockSet = true) (n : Nat) (s : String) :
    (flagged (fields ++ tail)).isMatch (plainDigitsFrom n s) = (flagged (fields ++ tail)).isMatch s := by
  apply isMatch_flagged_eq_of_map (asksOnly_append htail) fun _ => contains_plainDigit
  rw [plainDigitsFrom_toList, map_plainFrom]

theorem ascii_of_fields (htail : ∀ p ∈ tail, p.asksOnly isClockSet = true)
    (hmatch : (flagged (fields ++ tail)).isMatch s = true) (hclock : isClock s = true) :
    ∀ c ∈ (plainDigitsFrom 8 s).toList, c.toNat < 0x80 := by
  obtain ⟨h1, h2, x, m1, m2, y, s1, s2, rest, hs, hx, hy⟩ := exists_fields htail hmatch
  rw [plainDigitsFrom_toList]
  intro c hc
  rcases List.mem_append.mp hc with hc | hc
  · exact ascii_of_isClock hclock hs hx hy c hc
  · obtain ⟨d, hd, rfl⟩ := List.mem_map.mp hc
    obtain ⟨set, hset, hcontains⟩ :=
      exists_set_of_isMatch_flagged (asksOnly_append htail) hmatch (List.mem_of_mem_drop hd)
    exact lt_of_contains_clockSet hset hcontains

end Pattern

theorem isClock_plain (s : String) : isClock (plainDigitsFrom 8 s) = isClock s := by
  rw [plainDigitsFrom, ← isClock_take, take_plainFrom (Nat.le_refl 8), isClock_take, String.ofList_toList]

/-- **A time stays one, and stays none, if digits of other scripts behind its seconds are replaced by zeros.** -/
theorem isTime_plain (s : String) : isTime (plainDigitsFrom 8 s) = isTime s := by
  rw [isTime, isTime, timePattern_eq, Option.any_some, Option.any_some, isMatch_plain timeTail_asksOnly,
    isClock_plain]

theorem isZonedTime_plain (s : String) : isZonedTime (plainDigitsFrom 8 s) = isZonedTime s := by
  rw [isZonedTime, isZonedTime, zonedTimePattern_eq, Option.any_some, Option.any_some,
    isMatch_plain zonedTail_asksOnly, isClock_plain]

/-- **A time is ASCII but for digits behind its seconds.** -/
theorem ascii_of_isTime {s : String} (h : isTime s = true) : ∀ c ∈ (plainDigitsFrom 8 s).toList, c.toNat < 0x80 := by
  rw [isTime, timePattern_eq, Option.any_some, Bool.and_eq_true] at h
  exact ascii_of_fields timeTail_asksOnly h.1 h.2

theorem ascii_of_isZonedTime {s : String} (h : isZonedTime s = true) :
    ∀ c ∈ (plainDigitsFrom 8 s).toList, c.toNat < 0x80 := by
  rw [isZonedTime, zonedTimePattern_eq, Option.any_some, Bool.and_eq_true] at h
  exact ascii_of_fields zonedTail_asksOnly h.1 h.2

/-! ## Dates -/

theorem isDate_cases {s : String} (h : isDate s = true) :
    s.toList.length = 10 ∧ ∀ c ∈ s.toList, c.isDigit = true ∨ c = '-' := by
  unfold isDate at h
  split at h
  · next heq =>
    split at h
    · next hyear hmonth hday =>
      have hyear := isDigit_of_digits? hyear
      have hmonth := isDigit_of_digits? hmonth
      have hday := isDigit_of_digits? hday
      simp only [List.forall_mem_cons] at hyear hmonth hday
      simp [heq, hyear, hmonth, hday]
    · cases h
  · cases h

theorem ascii_of_isDate {s : String} (h : isDate s = true) : ∀ c ∈ s.toList, c.toNat < 0x80 := by
  intro c hc
  rcases (isDate_cases h).2 c hc with hdigit | rfl
  · exact lt_of_isDigit hdigit
  · decide

/-! ## Date-times -/

/-- What stands between a date and a time. -/
def isMark (c : Char) : Bool := c == 'T' || c == 't' || c == ' '

/-- The first mark of a date-time divides it. -/
theorem isDateTime_iff_findIdx (s : String) :
    isDateTime s = true ↔ isDate (String.ofList (s.toList.take (s.toList.findIdx isMark))) = true ∧
      s.toList.findIdx isMark < s.toList.length ∧
      isZonedTime (String.ofList (s.toList.drop (s.toList.findIdx isMark + 1))) = true := by
  unfold isDateTime
  dsimp only
  rw [List.takeWhile_eq_take_findIdx_not, List.dropWhile_eq_drop_findIdx_not]
  simp only [Bool.not_not]
  have hfirst : (s.toList.findIdx fun c => c == 'T' || c == 't' || c == ' ') = s.toList.findIdx isMark := rfl
  rw [hfirst]
  rcases Nat.lt_or_ge (s.toList.findIdx isMark) s.toList.length with hlt | hge
  · rw [List.drop_eq_getElem_cons hlt]
    simp only [hlt, Bool.and_eq_true, true_and]
  · rw [List.drop_eq_nil_of_le hge]
    simp only [Nat.not_lt_of_le hge, Bool.false_eq_true, false_and, and_false]

theorem not_isMark {c : Char} (h : c.isDigit = true ∨ c = '-') : isMark c = false := by
  rcases h with h | rfl
  · rw [Bool.eq_false_iff]
    intro hmark
    simp only [isMark, Bool.or_eq_true, beq_iff_eq] at hmark
    rcases hmark with (rfl | rfl) | rfl <;> exact absurd h (by decide)
  · rfl

/-- A date takes the first ten characters of a date-time, and a mark is the next. -/
theorem isDateTime_iff (s : String) :
    isDateTime s = true ↔ isDate (String.ofList (s.toList.take 10)) = true ∧
      (∃ mark, s.toList[10]? = some mark ∧ isMark mark = true) ∧
      isZonedTime (String.ofList (s.toList.drop 11)) = true := by
  rw [isDateTime_iff_findIdx]
  constructor
  · rintro ⟨hdate, hlt, htime⟩
    have hlength := (isDate_cases hdate).1
    rw [String.toList_ofList, List.length_take_of_le hlt.le] at hlength
    have hmark : ∃ mark, s.toList[s.toList.findIdx isMark]? = some mark ∧ isMark mark = true :=
      ⟨_, List.getElem?_eq_getElem hlt, List.findIdx_getElem⟩
    rw [hlength] at hdate hmark htime
    exact ⟨hdate, hmark, htime⟩
  · rintro ⟨hdate, ⟨mark, hnext, hmark⟩, htime⟩
    obtain ⟨hlt, rfl⟩ := List.getElem?_eq_some_iff.mp hnext
    have hday : ∀ j (hj : j < 10), isMark s.toList[j] = false := by
      intro j hj
      apply not_isMark
      apply (isDate_cases hdate).2
      rw [String.toList_ofList]
      exact List.mem_take_iff_getElem.mpr ⟨j, by omega, rfl⟩
    have hfirst : s.toList.findIdx isMark = 10 := (List.findIdx_eq hlt).mpr ⟨hmark, hday⟩
    rw [hfirst]
    exact ⟨hdate, hlt, htime⟩

/-- **A date-time stays one, and stays none, if digits of other scripts behind its seconds are replaced by zeros.** -/
theorem isDateTime_plain (s : String) : isDateTime (plainDigitsFrom 19 s) = isDateTime s := by
  have htime : String.ofList (plainFrom 8 (s.toList.drop 11)) = plainDigitsFrom 8 (String.ofList (s.toList.drop 11)) := by
    rw [plainDigitsFrom, String.toList_ofList]
  have hnext : (plainFrom 19 s.toList)[10]? = s.toList[10]? := by
    rw [← List.getElem?_take_of_lt (show 10 < 11 by decide), take_plainFrom (by decide),
      List.getElem?_take_of_lt (by decide)]
  rw [Bool.eq_iff_iff, isDateTime_iff, isDateTime_iff, plainDigitsFrom_toList, take_plainFrom (by decide),
    drop_plainFrom (by decide), hnext, htime, isZonedTime_plain]

/-- **A date-time is ASCII but for digits behind its seconds.** -/
theorem ascii_of_isDateTime {s : String} (h : isDateTime s = true) :
    ∀ c ∈ (plainDigitsFrom 19 s).toList, c.toNat < 0x80 := by
  obtain ⟨hdate, ⟨mark, hnext, hmark⟩, htime⟩ := (isDateTime_iff s).mp h
  have hday := ascii_of_isDate hdate
  have hclock := ascii_of_isZonedTime htime
  rw [plainDigitsFrom_toList, String.toList_ofList] at hclock
  rw [String.toList_ofList] at hday
  have hmarkAscii : mark.toNat < 0x80 := by
    simp only [isMark, Bool.or_eq_true, beq_iff_eq] at hmark
    rcases hmark with (rfl | rfl) | rfl <;> decide
  rw [plainDigitsFrom_toList, ← List.take_append_drop 11 (plainFrom 19 s.toList), take_plainFrom (by decide),
    drop_plainFrom (by decide), List.take_add_one, hnext]
  intro c hc
  rcases List.mem_append.mp hc with hc | hc
  · rcases List.mem_append.mp hc with hc | hc
    · exact hday c hc
    · rw [Option.toList_some, List.mem_singleton] at hc
      exact hc ▸ hmarkAscii
  · exact hclock c hc

end JsonSchema.Clock
