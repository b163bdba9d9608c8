import JsonSchema.Proofs.Format.Clock
import JsonSchema.Proofs.Format.PointerFormats

/-!
# Formats of ASCII texts

Dates, times, e-mail addresses, host names and UUIDs are ASCII texts by their definitions, but not all characters
beyond ASCII are refused.  Patterns that ignore case take the long s and the Kelvin sign for letters, and the
patterns of times take the digits of all scripts.  What is accepted for it is an ASCII text of the format in all
but these characters (`Format.LooksAscii`): **a text beyond ASCII is rejected unless it looks like one in ASCII**
(`nonAscii_rejected_iff`), which no date and no UUID does.
-/

set_option autoImplicit false

namespace JsonSchema

open Unicode CharSet Regex

namespace Format

/-! ## The patterns -/

/-- A letter or a digit in any case, or one of some more characters. -/
def alphanumericOr (more : String) : Regex :=
  .chars (foldCase (unionAll
    ([range 'a'.toNat 'z'.toNat, range '0'.toNat '9'.toNat] ++ more.toList.map single)))

def alphanumeric : Regex := alphanumericOr ""

/-- Letters, digits and signs between the points of a mailbox. -/
def atom : Regex := .repeat (alphanumericOr "!#$%&'*+/=?^_`\x7b|\x7d~-") 1 none

/-- What is behind the first character of a label. -/
def labelRest (most : Option Nat) : Regex :=
  .repeat (.seq (.repeat (alphanumericOr "-") 0 most) alphanumeric) 0 (some 1)

def emailParts : List Regex :=
  [atom, .repeat (.seq (anyCase '.') atom) 0 none, anyCase '@',
    .repeat (.seq alphanumeric (.seq (labelRest none) (anyCase '.'))) 1 none, alphanumeric, labelRest none]

def labelParts : List Regex := [alphanumeric, labelRest (some 61)]

/-- A number of hexadecimal digits. -/
def hexDigits (n : Nat) : Regex :=
  .repeat (.chars (foldCase (unionAll [range '0'.toNat '9'.toNat, range 'a'.toNat 'f'.toNat]))) n (some n)

def uuidParts : List Regex :=
  [.repeat ("urn:uuid".toList.foldr (fun c rest => .seq (anyCase c) rest) (anyCase ':')) 0 (some 1), hexDigits 8,
    anyCase '-', .repeat (.seq (hexDigits 4) (anyCase '-')) 3 (some 3), hexDigits 12]

theorem emailPattern_eq : emailPattern = some (flagged emailParts) := by decide +kernel

theorem labelPattern_eq : labelPattern = some (flagged labelParts) := by decide +kernel

theorem uuidPattern_eq : uuidPattern = some (flagged uuidParts) := by decide +kernel

theorem emailParts_folded : ∀ p ∈ emailParts, p.asksOnly isFoldedAscii = true := by decide +kernel

theorem labelParts_folded : ∀ p ∈ labelParts, p.asksOnly isFoldedAscii = true := by decide +kernel

theorem uuidParts_pure : ∀ p ∈ uuidParts, p.asksOnly isPureAscii = true := by decide +kernel

/-! ## Addresses and UUIDs -/

section Folded

variable {parts : List Regex}

theorem isMatch_plain (hparts : ∀ p ∈ parts, p.asksOnly isFoldedAscii = true) (s : String) :
    (flagged parts).isMatch (plainText s) = (flagged parts).isMatch s := by
  apply isMatch_flagged_eq_of_map hparts fun _ => contains_plainLetter
  rw [← plainText_toList, plainText_plainText, plainText_toList]

theorem ascii_of_isMatch (hparts : ∀ p ∈ parts, p.asksOnly isFoldedAscii = true) {s : String}
    (h : (flagged parts).isMatch s = true) : ∀ c ∈ s.toList, (plainLetter c).toNat < 0x80 := by
  intro c hc
  obtain ⟨set, hset, hcontains⟩ := exists_set_of_isMatch_flagged hparts h hc
  exact plain_of_contains hset hcontains

end Folded

theorem isEmail_plain (s : String) : isEmail (plainText s) = isEmail s := by
  rw [isEmail, isEmail, emailPattern_eq, isMatchOf, isMatchOf, Option.any_some, Option.any_some,
    isMatch_plain emailParts_folded]

theorem ascii_of_isEmail {s : String} (h : isEmail s = true) : ∀ c ∈ (plainText s).toList, c.toNat < 0x80 := by
  rw [isEmail, emailPattern_eq, isMatchOf, Option.any_some] at h
  exact forall_mem_plainText.mpr (ascii_of_isMatch emailParts_folded h)

theorem ascii_of_isUuid {s : String} (h : isUuid s = true) : ∀ c ∈ s.toList, c.toNat < 0x80 := by
  rw [isUuid, uuidPattern_eq, isMatchOf, Option.any_some] at h
  intro c hc
  obtain ⟨set, hset, hcontains⟩ := exists_set_of_isMatch_flagged uuidParts_pure h hc
  exact lt_of_contains_pure hset hcontains

/-! ## Host names -/

/-- What a host name is without a point at its end. -/
def withoutFinalPoint (cs : List Char) : List Char :=
  match cs.reverse with
  | '.' :: rest => rest.reverse
  | _ => cs

def isLabel (cs : List Char) : Bool := isMatchOf labelPattern (String.ofList cs)

/-- The bytes of a host name, without a point at its end. -/
def hostSize (s : String) : Nat := (String.ofList (withoutFinalPoint s.toList)).utf8ByteSize

theorem isHostname_iff (s : String) :
    isHostname s = true ↔ withoutFinalPoint s.toList ≠ [] ∧ hostSize s ≤ 253 ∧
      ∀ label ∈ splitAtChar '.' (withoutFinalPoint s.toList), isLabel label = true := by
  have hunfold : isHostname s = (!(withoutFinalPoint s.toList).isEmpty && decide (hostSize s ≤ 253) &&
      (splitAtChar '.' (withoutFinalPoint s.toList)).all isLabel) := rfl
  rw [hunfold, Bool.and_eq_true, Bool.and_eq_true, decide_eq_true_eq, List.all_eq_true, Bool.not_eq_true',
    List.isEmpty_eq_false_iff, and_assoc]

theorem withoutFinalPoint_concat (front : List Char) (c : Char) :
    withoutFinalPoint (front ++ [c]) = if c = '.' then front else front ++ [c] := by
  unfold withoutFinalPoint
  rw [List.reverse_concat]
  split
  · next heq =>
    cases heq
    rw [if_pos rfl, List.reverse_reverse]
  · next hne =>
    have hc : c ≠ '.' := by
      rintro rfl
      exact hne _ rfl
    rw [if_neg hc]

theorem point_iff (c : Char) : plainLetter c = '.' ↔ c = '.' :=
  plainLetter_eq_iff (by decide) (by decide) (by decide)

theorem withoutFinalPoint_map (cs : List Char) :
    withoutFinalPoint (cs.map plainLetter) = (withoutFinalPoint cs).map plainLetter := by
  rcases List.eq_nil_or_concat cs with rfl | ⟨front, c, rfl⟩
  · rfl
  · rw [List.concat_eq_append, List.map_append, List.map_singleton, withoutFinalPoint_concat,
      withoutFinalPoint_concat]
    simp only [point_iff]
    split
    · rfl
    · rw [List.map_append, List.map_singleton]

theorem mem_withoutFinalPoint {cs : List Char} {c : Char} (hc : c ∈ cs) : c = '.' ∨ c ∈ withoutFinalPoint cs := by
  rcases List.eq_nil_or_concat cs with rfl | ⟨front, d, rfl⟩
  · cases hc
  · rw [List.concat_eq_append] at hc ⊢
    rw [withoutFinalPoint_concat]
    split
    · next hd =>
      rcases List.mem_append.mp hc with hc | hc
      · exact .inr hc
      · exact .inl ((List.mem_singleton.mp hc).trans hd)
    · exact .inr hc

/-- A map that keeps the separator maps the pieces. -/
theorem splitAtChar_map {f : Char → Char} {sep : Char} (hf : ∀ c, f c = sep ↔ c = sep) (cs : List Char) :
    splitAtChar sep (cs.map f) = (splitAtChar sep cs).map (List.map f) := by
  induction cs with
  | nil => rfl
  | cons c rest ih =>
    rw [List.map_cons, splitAtChar, splitAtChar, ih]
    simp only [hf]
    split
    · rfl
    · cases splitAtChar sep rest <;> rfl

theorem mem_splitAtChar (sep : Char) {cs : List Char} {c : Char} (hc : c ∈ cs) :
    c = sep ∨ ∃ piece ∈ splitAtChar sep cs, c ∈ piece := by
  have hmem : c ∈ (splitAtChar sep cs).flatMap (sep :: ·) := by
    rw [flatMap_splitAtChar]
    exact List.mem_cons_of_mem sep hc
  obtain ⟨piece, hpiece, hin⟩ := List.mem_flatMap.mp hmem
  exact (List.mem_cons.mp hin).imp_right fun hin => ⟨piece, hpiece, hin⟩

theorem isLabel_plain (cs : List Char) : isLabel (cs.map plainLetter) = isLabel cs := by
  have hplain : String.ofList (cs.map plainLetter) = plainText (String.ofList cs) := by
    rw [plainText, String.toList_ofList]
  rw [isLabel, isLabel, hplain, labelPattern_eq, isMatchOf, isMatchOf, Option.any_some, Option.any_some,
    isMatch_plain labelParts_folded]

theorem utf8ByteSize_map_le (cs : List Char) :
    (String.ofList (cs.map plainLetter)).utf8ByteSize ≤ (String.ofList cs).utf8ByteSize := by
  induction cs with
  | nil => exact Nat.le_refl _
  | cons c rest ih =>
    have hcons : ∀ (d : Char) (ds : List Char),
        (String.ofList (d :: ds)).utf8ByteSize = d.utf8Size + (String.ofList ds).utf8ByteSize := by
      intro d ds
      rw [String.ofList_cons, String.utf8ByteSize_append, String.utf8ByteSize_singleton]
    rw [List.map_cons, hcons, hcons]
    exact Nat.add_le_add (utf8Size_plainLetter_le c) ih

theorem hostSize_plain_le (s : String) : hostSize (plainText s) ≤ hostSize s := by
  rw [hostSize, plainText_toList, withoutFinalPoint_map]
  exact utf8ByteSize_map_le _

/-- **A host name remains one with plain letters, and one with plain letters is one without if it fits.** -/
theorem isHostname_plain_iff (s : String) :
    isHostname s = true ↔ isHostname (plainText s) = true ∧ hostSize s ≤ 253 := by
  have hlabels : (∀ label ∈ splitAtChar '.' (withoutFinalPoint (plainText s).toList), isLabel label = true) ↔
      ∀ label ∈ splitAtChar '.' (withoutFinalPoint s.toList), isLabel label = true := by
    rw [plainText_toList, withoutFinalPoint_map, splitAtChar_map point_iff, List.forall_mem_map]
    simp only [isLabel_plain]
  have hnil : withoutFinalPoint (plainText s).toList ≠ [] ↔ withoutFinalPoint s.toList ≠ [] := by
    rw [plainText_toList, withoutFinalPoint_map, ne_eq, List.map_eq_nil_iff]
  rw [isHostname_iff, isHostname_iff, hlabels, hnil]
  constructor
  · rintro ⟨hne, hfits, hall⟩
    exact ⟨⟨hne, (hostSize_plain_le s).trans hfits, hall⟩, hfits⟩
  · rintro ⟨⟨hne, -, hall⟩, hfits⟩
    exact ⟨hne, hfits, hall⟩

theorem ascii_of_isHostname {s : String} (h : isHostname s = true) :
    ∀ c ∈ (plainText s).toList, c.toNat < 0x80 := by
  obtain ⟨-, -, hall⟩ := (isHostname_iff s).mp h
  have hpoint : (plainLetter '.').toNat < 0x80 := by decide
  refine forall_mem_plainText.mpr fun c hc => ?_
  rcases mem_withoutFinalPoint hc with rfl | hc
  · exact hpoint
  rcases mem_splitAtChar '.' hc with rfl | ⟨label, hlabel, hc⟩
  · exact hpoint
  · have hmatch := hall label hlabel
    rw [isLabel, labelPattern_eq, isMatchOf, Option.any_some] at hmatch
    exact ascii_of_isMatch labelParts_folded hmatch c (by rwa [String.toList_ofList])

/-! ## Texts that look like ASCII -/

/-- A text with the characters in ASCII that a format takes those beyond it for: letters in addresses, and digits
    behind the seconds, which end after eight characters of a time and nineteen of a date-time. -/
def asciiForm (name s : String) : String :=
  match name with
  | "time" => Clock.plainDigitsFrom 8 s
  | "date-time" => Clock.plainDigitsFrom 19 s
  | "email" | "hostname" => plainText s
  | _ => s

/-- A text beyond ASCII that is taken for one in ASCII of the format. -/
structure LooksAscii (name s : String) : Prop where
  beyond : ∃ c ∈ s.toList, 0x80 ≤ c.toNat
  ascii : ∀ c ∈ (asciiForm name s).toList, c.toNat < 0x80
  accepted : Formats.builtinAccepts name (asciiForm name s) = true
  fits : name = "hostname" → hostSize s ≤ 253

end Format

open Format

/-- The formats that ask for ASCII texts. -/
def asciiFormats : List String := ["date", "time", "date-time", "email", "hostname", "uuid"]

theorem builtinAccepts_of_get? {name : String} {check : String → Bool}
    (h : Formats.builtin.get? name = some (.string check)) (s : String) : Formats.builtinAccepts name s = check s := by
  rw [Formats.builtinAccepts, h, Option.any_some, Format.accepts]

/-- A format that makes no difference between a text and its form in ASCII. -/
theorem builtinAccepts_iff_of {name : String} (check : String → Bool) (form : String → String)
    (hcheck : Formats.builtin.get? name = some (.string check)) (hform : ∀ s, asciiForm name s = form s)
    (hsame : ∀ s, check (form s) = check s)
    (hascii : ∀ s, check s = true → ∀ c ∈ (form s).toList, c.toNat < 0x80) (hname : name ≠ "hostname") (s : String) :
    Formats.builtinAccepts name s = true ↔
      (∀ c ∈ (asciiForm name s).toList, c.toNat < 0x80) ∧ Formats.builtinAccepts name (asciiForm name s) = true ∧
        (name = "hostname" → hostSize s ≤ 253) := by
  rw [builtinAccepts_of_get? hcheck, builtinAccepts_of_get? hcheck, hform, hsame]
  exact ⟨fun h => ⟨hascii s h, h, fun heq => absurd heq hname⟩, fun h => h.2.1⟩

/-- What such a format accepts is a text of it in ASCII, but for what it takes for ASCII. -/
theorem builtinAccepts_iff {name : String} (hname : name ∈ asciiFormats) (s : String) :
    Formats.builtinAccepts name s = true ↔
      (∀ c ∈ (asciiForm name s).toList, c.toNat < 0x80) ∧ Formats.builtinAccepts name (asciiForm name s) = true ∧
        (name = "hostname" → hostSize s ≤ 253) := by
  simp only [asciiFormats, List.mem_cons, List.not_mem_nil, or_false] at hname
  rcases hname with rfl | rfl | rfl | rfl | rfl | rfl
  · exact builtinAccepts_iff_of Clock.isDate id rfl (fun _ => rfl) (fun _ => rfl)
      (fun _ => Clock.ascii_of_isDate) (by decide) s
  · exact builtinAccepts_iff_of Clock.isTime (Clock.plainDigitsFrom 8) rfl (fun _ => rfl) Clock.isTime_plain
      (fun _ => Clock.ascii_of_isTime) (by decide) s
  · exact builtinAccepts_iff_of Clock.isDateTime (Clock.plainDigitsFrom 19) rfl (fun _ => rfl)
      Clock.isDateTime_plain (fun _ => Clock.ascii_of_isDateTime) (by decide) s
  · exact builtinAccepts_iff_of isEmail plainText rfl (fun _ => rfl) isEmail_plain (fun _ => ascii_of_isEmail)
      (by decide) s
  · have hform : asciiForm "hostname" s = plainText s := rfl
    have hcheck : Formats.builtin.get? "hostname" = some (.string isHostname) := rfl
    rw [builtinAccepts_of_get? hcheck, builtinAccepts_of_get? hcheck, hform]
    constructor
    · intro h
      obtain ⟨hplain, hfits⟩ := (isHostname_plain_iff s).mp h
      exact ⟨ascii_of_isHostname h, hplain, fun _ => hfits⟩
    · rintro ⟨-, hplain, hfits⟩
      exact (isHostname_plain_iff s).mpr ⟨hplain, hfits rfl⟩
  · exact builtinAccepts_iff_of isUuid id rfl (fun _ => rfl) (fun _ => rfl) (fun _ => ascii_of_isUuid) (by decide) s

/-- **Texts beyond ASCII are rejected, unless they look like ASCII to the format.**  None does to those of dates
    and UUIDs. -/
theorem nonAscii_rejected_iff {name : String} (hname : name ∈ asciiFormats) (s : String) :
    (((∃ c ∈ s.toList, 0x80 ≤ c.toNat) → Formats.builtinAccepts name s = false) ↔ ¬ LooksAscii name s) ∧
      (name = "date" ∨ name = "uuid" → ¬ LooksAscii name s) := by
  refine ⟨⟨fun hrejected hlooks => ?_, fun hnot hbeyond => ?_⟩, ?_⟩
  · have haccepted := (builtinAccepts_iff hname s).mpr ⟨hlooks.ascii, hlooks.accepted, hlooks.fits⟩
    rw [hrejected hlooks.beyond] at haccepted
    cases haccepted
  · rw [Bool.eq_false_iff]
    intro haccepted
    obtain ⟨hascii, hform, hfits⟩ := (builtinAccepts_iff hname s).mp haccepted
    exact hnot ⟨hbeyond, hascii, hform, hfits⟩
  · intro hsame hlooks
    obtain ⟨c, hc, hbeyond⟩ := hlooks.beyond
    have hascii : c.toNat < 0x80 := by
      rcases hsame with rfl | rfl
      · exact hlooks.ascii c hc
      · exact hlooks.ascii c hc
    exact absurd hbeyond (Nat.not_le_of_lt hascii)

/-- A digit of another script is no second. -/
theorem arabicSecond_rejected : "time" ∈ asciiFormats ∧ Formats.builtinAccepts "time" "12:30:0\u0663" = false := by
  refine ⟨by decide, (nonAscii_rejected_iff (by decide) "12:30:0\u0663").1.mpr (fun hlooks => ?_) ⟨'\u0663', ?_, ?_⟩⟩
  · exact absurd (hlooks.ascii '\u0663' (by decide +kernel)) (by decide)
  · decide
  · decide

/-- **A Kelvin sign is taken for a letter, and a digit of another script for one of a fraction.** -/
theorem lookAlikes_accepted :
    (0x80 ≤ '\u212a'.toNat ∧ '\u212a' ∈ "\u212a@a.b".toList ∧
      Formats.builtinAccepts "email" "\u212a@a.b" = true) ∧
    (0x80 ≤ '\u017f'.toNat ∧ '\u017f' ∈ "\u017fite".toList ∧
      Formats.builtinAccepts "hostname" "\u017fite" = true) ∧
    (0x80 ≤ '\u0663'.toNat ∧ '\u0663' ∈ "12:30:00.\u0663".toList ∧
      Formats.builtinAccepts "time" "12:30:00.\u0663" = true) ∧
    Formats.builtinAccepts "date-time" "2024-05-01T12:30:00.\u0663Z" = true := by
  decide +kernel

end JsonSchema
