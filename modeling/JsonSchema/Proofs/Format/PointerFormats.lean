import JsonSchema.Format.Basic
import JsonSchema.Program.DataRef
import JsonSchema.Proofs.Json.WrittenPointers
import JsonSchema.Proofs.Regex.Languages
import JsonSchema.Proofs.Text.Numerals
import Mathlib.Data.List.TakeWhile

/-!
# The formats of references

Whether a text is a reference into the data is asked in two ways: the formats `json-pointer` and
`relative-json-pointer` match it with an expression, and `DataRef.parse?` takes it apart.  Both come down to what
references are written as (`DataTarget.text`): **the formats accept the texts of references, and those whose
number of levels fits a word are read** (`reference_accepted_iff`).
-/

set_option autoImplicit false

namespace JsonSchema

open Computability

/-! ## References, written and read -/

/-- The digits of a number come to their end where something else follows. -/
theorem digits_append {n : Nat} {rest : List Char} (hrest : rest.head?.any Char.isDigit = false) :
    ((toString n).toList ++ rest).takeWhile Char.isDigit = (toString n).toList ∧
      ((toString n).toList ++ rest).dropWhile Char.isDigit = rest := by
  have hdigits := (isNumeral_toString n).digits
  rw [List.takeWhile_append_of_pos hdigits, List.dropWhile_append_of_pos hdigits]
  cases rest with
  | nil => simp
  | cons c rest =>
    have hc : c.isDigit = false := hrest
    simp [hc]

/-- The text of a pointer begins with a slash, unless there is none. -/
theorem Pointer.render_cases (tokens : List String) :
    (render tokens).toList = [] ∨ ∃ rest, (render tokens).toList = '/' :: rest := by
  cases tokens with
  | nil => exact .inl rfl
  | cons token rest => exact .inr ⟨_, render_cons_toList token rest⟩

theorem Pointer.not_isDigit_render (tokens : List String) :
    (render tokens).toList.head?.any Char.isDigit = false := by
  rcases render_cases tokens with h | ⟨rest, h⟩ <;>
  · rw [h]
    rfl

namespace DataTarget

def text : DataTarget → String
  | absolute tokens => Pointer.render tokens
  | relative up tokens => toString up ++ Pointer.render tokens
  | position up => toString up ++ "#"

/-- The number of levels to go up is one of 64 bits. -/
def Fits : DataTarget → Prop
  | absolute _ => True
  | relative up _ | position up => up < UInt64.size

theorem text_relative_toList (up : Nat) (tokens : List String) :
    (relative up tokens).text.toList = (toString up).toList ++ (Pointer.render tokens).toList := String.toList_append

theorem text_position_toList (up : Nat) : (position up).text.toList = (toString up).toList ++ ['#'] :=
  String.toList_append

/-- A relative reference begins with its number of levels. -/
theorem leading_relative (up : Nat) (tokens : List String) :
    natOfDigits ((relative up tokens).text.toList.takeWhile Char.isDigit) = up := by
  rw [text_relative_toList, (digits_append (Pointer.not_isDigit_render tokens)).1, natOfDigits_toString]

theorem leading_position (up : Nat) : natOfDigits ((position up).text.toList.takeWhile Char.isDigit) = up := by
  rw [text_position_toList, (digits_append rfl).1, natOfDigits_toString]

end DataTarget

namespace DataRef

theorem levels?_eq_some_iff {ds : List Char} (hdigits : ∀ d ∈ ds, d.isDigit = true) {n : Nat} :
    levels? ds = some n ↔ ds = (toString n).toList ∧ n < UInt64.size := by
  have hnumeral : ds = (toString n).toList ↔ IsNumeral ds ∧ natOfDigits ds = n :=
    ⟨fun h => h ▸ ⟨isNumeral_toString n, natOfDigits_toString n⟩, fun ⟨h, hn⟩ => hn ▸ h.eq_toString.symm⟩
  rw [hnumeral]
  unfold levels?
  split
  · exact iff_of_false (fun h => nomatch h) fun ⟨⟨h, _⟩, _⟩ => h.ne_nil rfl
  · exact iff_of_false (fun h => nomatch h) fun ⟨⟨h, _⟩, _⟩ => nomatch h.not_padded rfl
  · next hne hpadded =>
    have hwell : IsNumeral ds := by
      refine ⟨hdigits, hne, fun hzero => ?_⟩
      obtain ⟨rest, rfl⟩ := List.head?_eq_some_iff.mp hzero
      cases rest with
      | nil => rfl
      | cons d ds => exact absurd rfl (hpadded d ds)
    dsimp only
    rw [Option.ite_none_right_eq_some, Option.some.injEq, and_iff_right hwell, and_comm]
    exact and_congr_right fun hn => by rw [hn]

/-- How a text is read that begins with a number of levels. -/
theorem target?_numbered {pointer : String} {n : Nat} {rest : List Char} (hn : n < UInt64.size)
    (hpointer : pointer.toList = (toString n).toList ++ rest) (hrest : rest.head?.any Char.isDigit = false) :
    target? pointer =
      if rest = ['#'] then some (.position n) else (Pointer.parse? (String.ofList rest)).map (.relative n) := by
  have hnumeral := isNumeral_toString n
  obtain ⟨first, more, hfirst⟩ := List.exists_cons_of_ne_nil hnumeral.ne_nil
  have hdigit : first.isDigit = true := hnumeral.digits first (by rw [hfirst]; exact List.mem_cons_self)
  obtain ⟨htake, hdrop⟩ := digits_append hrest
  have hlevels : levels? (toString n).toList = some n := (levels?_eq_some_iff hnumeral.digits).mpr ⟨rfl, hn⟩
  unfold target?
  split
  · next hnil =>
    rw [hpointer, hfirst] at hnil
    cases hnil
  · next hslash =>
    rw [hpointer, hfirst] at hslash
    obtain rfl := (List.cons.inj hslash).1
    exact absurd hdigit (by decide)
  · rw [hpointer, htake, hdrop, hlevels]
    dsimp only [bind, Option.bind]
    split
    · rw [if_pos rfl]
      rfl
    · next hhash =>
      rw [if_neg hhash]
      cases Pointer.parse? (String.ofList rest) <;> rfl

/-- **A text is read as the reference that is written so**, if the number of levels fits. -/
theorem target?_eq_some_iff {pointer : String} {t : DataTarget} :
    target? pointer = some t ↔ t.text = pointer ∧ t.Fits := by
  constructor
  · intro h
    unfold target? at h
    split at h
    · next hnil =>
      cases h
      exact ⟨(String.toList_inj.mp hnil).symm, trivial⟩
    · obtain ⟨tokens, htokens, rfl⟩ := Option.map_eq_some_iff.mp h
      exact ⟨Pointer.render_of_parse? htokens, trivial⟩
    · obtain ⟨up, hup, h⟩ := Option.bind_eq_some_iff.mp h
      obtain ⟨hdigits, hfits⟩ := (levels?_eq_some_iff fun d hd => List.mem_takeWhile_imp hd).mp hup
      have hsplit : pointer.toList = (toString up).toList ++ pointer.toList.dropWhile Char.isDigit := by
        rw [← hdigits, List.takeWhile_append_dropWhile]
      split at h
      · next hhash =>
        cases h
        refine ⟨?_, hfits⟩
        rw [← String.toList_inj, hsplit, hhash, DataTarget.text_position_toList]
      · obtain ⟨tokens, htokens, h⟩ := Option.bind_eq_some_iff.mp h
        cases h
        refine ⟨?_, hfits⟩
        rw [← String.toList_inj, hsplit, DataTarget.text_relative_toList, Pointer.render_of_parse? htokens,
          String.toList_ofList]
  · rintro ⟨rfl, hfits⟩
    cases t with
    | absolute tokens =>
      cases tokens with
      | nil => rfl
      | cons token rest =>
        rw [DataTarget.text, target?, Pointer.render_cons_toList, Pointer.parse?_render]
        rfl
    | relative up tokens =>
      have hhash : (Pointer.render tokens).toList ≠ ['#'] := by
        rcases Pointer.render_cases tokens with h | ⟨rest, h⟩ <;> simp [h]
      rw [target?_numbered hfits (DataTarget.text_relative_toList up tokens) (Pointer.not_isDigit_render tokens),
        if_neg hhash, String.ofList_toList, Pointer.parse?_render]
      rfl
    | position up =>
      rw [target?_numbered hfits (DataTarget.text_position_toList up) rfl, if_pos rfl]

theorem parse?_isSome_iff {pointer : String} :
    (parse? pointer).isSome = true ↔ ∃ t : DataTarget, t.text = pointer ∧ t.Fits := by
  rw [parse?, Option.isSome_map, Option.isSome_iff_exists]
  exact exists_congr fun t => target?_eq_some_iff

end DataRef

/-! ## The languages of the formats -/

namespace Format

open Regex CharSet

variable {w : List Char}

/-- A character of a token, or an escape. -/
def tokenPart : Regex :=
  .alt (.chars (compl (unionAll [single '~', single '/'])))
    (.alt (.seq (.chars (single '~')) (.chars (single '0'))) (.seq (.chars (single '~')) (.chars (single '1'))))

/-- Tokens, each behind a slash. -/
def pointerPart : Regex := .repeat (.seq (.chars (single '/')) (.repeat tokenPart 0 none)) 0 none

/-- A numeral. -/
def numeralPart : Regex :=
  .alt (.chars (single '0'))
    (.seq (.chars (unionAll [range '1'.toNat '9'.toNat])) (.repeat (.chars (unionAll [range '0'.toNat '9'.toNat])) 0 none))

theorem jsonPointerPattern_eq : jsonPointerPattern = some (anchored [pointerPart]) := by decide +kernel

theorem relativeJsonPointerPattern_eq :
    relativeJsonPointerPattern = some (anchored [numeralPart, .alt (.chars (single '#')) pointerPart]) := by
  decide +kernel

theorem mem_single {c : Char} : w ∈ (chars (single c)).language ↔ w = [c] := by
  rw [mem_language_chars]
  simp [contains_single]

theorem mem_pair {c d : Char} : w ∈ (seq (chars (single c)) (chars (single d))).language ↔ w = [c, d] := by
  rw [mem_language_seq]
  simp [mem_single, eq_comm]

theorem mem_tokenPart : w ∈ tokenPart.language ↔ ∃ c, w = escapeChar c := by
  have hplain : w ∈ (chars (compl (unionAll [single '~', single '/']))).language ↔
      ∃ c, (c ≠ '~' ∧ c ≠ '/') ∧ w = [c] := by
    rw [mem_language_chars]
    refine exists_congr fun c => and_congr_left fun _ => ?_
    rw [contains, Bool.not_eq_true', Bool.eq_false_iff, ne_eq, contains_unionAll]
    simp [contains_single]
  have hescaped : w ∈ tokenPart.language ↔
      (∃ c, (c ≠ '~' ∧ c ≠ '/') ∧ w = [c]) ∨ w = ['~', '0'] ∨ w = ['~', '1'] := by
    rw [tokenPart, mem_language_alt, mem_language_alt, mem_pair, mem_pair, hplain]
  rw [hescaped]
  constructor
  · rintro (⟨c, ⟨htilde, hslash⟩, rfl⟩ | rfl | rfl)
    · exact ⟨c, by simp [escapeChar, htilde, hslash]⟩
    · exact ⟨'~', rfl⟩
    · exact ⟨'/', rfl⟩
  · rintro ⟨c, rfl⟩
    unfold escapeChar
    split
    · exact .inr (.inl rfl)
    · split
      · exact .inr (.inr rfl)
      · next htilde hslash => exact .inl ⟨c, ⟨htilde, hslash⟩, rfl⟩

/-- The language of pointers is that of the texts that tokens are written as. -/
theorem mem_pointerPart : w ∈ pointerPart.language ↔ ∃ tokens, w = (Pointer.render tokens).toList := by
  have htoken : ∀ v, v ∈ («repeat» tokenPart 0 none).language ↔ ∃ t : String, v = (escapeToken t).toList := by
    intro v
    rw [language_star, mem_kstar_iff_flatMap fun _ => mem_tokenPart]
    constructor
    · rintro ⟨cs, rfl⟩
      exact ⟨String.ofList cs, by rw [escapeToken_toList, String.toList_ofList]⟩
    · rintro ⟨t, rfl⟩
      exact ⟨t.toList, escapeToken_toList t⟩
  have hpart : ∀ v, v ∈ (seq (chars (single '/')) («repeat» tokenPart 0 none)).language ↔
      ∃ t : String, v = '/' :: (escapeToken t).toList := by
    intro v
    simp only [mem_language_seq, mem_single, htoken]
    constructor
    · rintro ⟨_, rfl, _, ⟨t, rfl⟩, rfl⟩
      exact ⟨t, rfl⟩
    · rintro ⟨t, rfl⟩
      exact ⟨_, rfl, _, ⟨t, rfl⟩, rfl⟩
  rw [pointerPart, language_star, mem_kstar_iff_flatMap hpart]
  simp only [Pointer.render_toList]

theorem mem_numeralPart : w ∈ numeralPart.language ↔ IsNumeral w := by
  have hrange : ∀ {first last c : Char},
      (unionAll [range first.toNat last.toNat]).contains c.toNat = true ↔ first ≤ c ∧ c ≤ last := by
    intro first last c
    rw [contains_unionAll]
    simp [contains_range]
  have hdigit : ∀ c : Char, c.isDigit = true ↔ '0' ≤ c ∧ c ≤ '9' := by
    intro c
    simp [Char.isDigit, Char.le_def]
  rw [numeralPart, mem_language_alt, mem_language_seq, mem_single]
  simp only [mem_language_star_chars, mem_language_chars, hrange, ← hdigit]
  constructor
  · rintro (rfl | ⟨_, ⟨d, ⟨hone, hnine⟩, rfl⟩, ds, hds, rfl⟩)
    · exact ⟨List.forall_mem_singleton.mpr rfl, List.cons_ne_nil _ _, fun _ => rfl⟩
    · have hd : d.isDigit = true := (hdigit d).mpr ⟨Char.le_trans (by decide) hone, hnine⟩
      refine ⟨List.forall_mem_cons.mpr ⟨hd, hds⟩, List.cons_ne_nil d ds, fun hzero => ?_⟩
      obtain rfl : d = '0' := Option.some.inj hzero
      exact absurd hone (by decide)
  · intro h
    obtain ⟨d, ds, rfl⟩ := List.exists_cons_of_ne_nil h.ne_nil
    obtain ⟨hd, hds⟩ := List.forall_mem_cons.mp h.digits
    by_cases hzero : d = '0'
    · exact .inl (h.not_padded (congrArg some hzero))
    · obtain ⟨hlow, hnine⟩ := (hdigit d).mp hd
      have hone : '1' ≤ d := by
        have hne : d.toNat ≠ '0'.toNat := fun heq => hzero (Char.toNat_inj.mp heq)
        exact Nat.lt_of_le_of_ne hlow hne.symm
      exact .inr ⟨[d], ⟨d, ⟨hone, hnine⟩, rfl⟩, ds, hds, rfl⟩

/-! ## What the formats accept -/

theorem isJsonPointer_iff (s : String) : isJsonPointer s = true ↔ ∃ tokens, (DataTarget.absolute tokens).text = s := by
  have hparts : ∀ p ∈ [pointerPart], p.hasNoLook = true := by decide
  rw [isJsonPointer, jsonPointerPattern_eq, isMatchOf, Option.any_some, isMatch_anchored hparts, List.map_singleton,
    List.prod_singleton, mem_pointerPart]
  exact exists_congr fun tokens => by rw [String.toList_inj, eq_comm, DataTarget.text]

theorem isRelativeJsonPointer_iff (s : String) : isRelativeJsonPointer s = true ↔
    ∃ up, (∃ tokens, (DataTarget.relative up tokens).text = s) ∨ (DataTarget.position up).text = s := by
  have hparts : ∀ p ∈ [numeralPart, .alt (.chars (single '#')) pointerPart], p.hasNoLook = true := by decide
  rw [isRelativeJsonPointer, relativeJsonPointerPattern_eq, isMatchOf, Option.any_some, isMatch_anchored hparts,
    List.map_cons, List.map_singleton, List.prod_cons, List.prod_singleton, Language.mem_mul]
  simp only [mem_numeralPart, isNumeral_iff, mem_language_alt, mem_single, mem_pointerPart]
  constructor
  · rintro ⟨_, ⟨up, rfl⟩, _, rfl | ⟨tokens, rfl⟩, hs⟩
    · exact ⟨up, .inr (String.toList_inj.mp (by rw [DataTarget.text_position_toList, hs]))⟩
    · exact ⟨up, .inl ⟨tokens, String.toList_inj.mp (by rw [DataTarget.text_relative_toList, hs])⟩⟩
  · rintro ⟨up, ⟨tokens, rfl⟩ | rfl⟩
    · exact ⟨_, ⟨up, rfl⟩, _, .inr ⟨tokens, rfl⟩, (DataTarget.text_relative_toList up tokens).symm⟩
    · exact ⟨_, ⟨up, rfl⟩, _, .inl rfl, (DataTarget.text_position_toList up).symm⟩

end Format

/-! ## The theorem -/

/-- Whether a text is accepted by the format that draft-07 gives a name. -/
def Formats.builtinAccepts (name s : String) : Bool := (builtin.get? name).any (·.accepts (.str s))

/-- **The formats accept what is read as a reference**, but for those that go up more levels than a word can
    say. -/
theorem reference_accepted_iff (s : String) :
    (DataRef.parse? s).isSome = true ↔
      Formats.builtinAccepts "json-pointer" s = true ∨
        Formats.builtinAccepts "relative-json-pointer" s = true ∧
          natOfDigits (s.toList.takeWhile Char.isDigit) < UInt64.size := by
  have habsolute : Formats.builtinAccepts "json-pointer" s = Format.isJsonPointer s := rfl
  have hrelative : Formats.builtinAccepts "relative-json-pointer" s = Format.isRelativeJsonPointer s := rfl
  rw [habsolute, hrelative, Format.isJsonPointer_iff, Format.isRelativeJsonPointer_iff, DataRef.parse?_isSome_iff]
  constructor
  · rintro ⟨t, rfl, hfits⟩
    cases t with
    | absolute tokens => exact .inl ⟨tokens, rfl⟩
    | relative up tokens => exact .inr ⟨⟨up, .inl ⟨tokens, rfl⟩⟩, (DataTarget.leading_relative up tokens).symm ▸ hfits⟩
    | position up => exact .inr ⟨⟨up, .inr rfl⟩, (DataTarget.leading_position up).symm ▸ hfits⟩
  · rintro (⟨tokens, h⟩ | ⟨⟨up, ⟨tokens, rfl⟩ | rfl⟩, hfits⟩)
    · exact ⟨.absolute tokens, h, trivial⟩
    · exact ⟨.relative up tokens, rfl, DataTarget.leading_relative up tokens ▸ hfits⟩
    · exact ⟨.position up, rfl, DataTarget.leading_position up ▸ hfits⟩

/-- The least number of levels that does not fit is still accepted by the format. -/
example : Formats.builtinAccepts "relative-json-pointer" "18446744073709551616#" = true ∧
    (DataRef.parse? "18446744073709551616#").isSome = false := by
  decide +kernel

end JsonSchema
