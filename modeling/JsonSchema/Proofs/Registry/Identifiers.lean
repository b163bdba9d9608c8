import JsonSchema.Format.Basic
import JsonSchema.Keyword.Definition
import JsonSchema.Proofs.Regex.Alphabets
import JsonSchema.Proofs.Unicode.CaseVariants

/-!
# Names of keywords

Whether a name can be that of a keyword is told by `isIdentifier`, while users are told a pattern
(`identifierPattern`).  The pattern ignores case and so takes the long s and the Kelvin sign for letters of ASCII:
**it describes the names that are identifiers once their letters are plain** (`matchesIdentifierPattern_iff`), and
the two rules agree on a name unless these letters make the difference (`identifier_rules_agree_iff`).
-/

set_option autoImplicit false

namespace JsonSchema

open Unicode CharSet Regex

/-- Whether a name is described by the pattern that users are told. -/
def matchesIdentifierPattern (name : String) : Bool := Format.isMatchOf (Regex.parse? identifierPattern) name

/-! ## Characters of identifiers -/

def isIdentifierStart (c : Char) : Bool := c.isAlpha || c == '_' || c == '$'

def isIdentifierRest (c : Char) : Bool := c.isAlphanum || c == '_' || c == '$' || c == '-'

theorem isIdentifier_iff (name : String) :
    isIdentifier name = true ↔
      ∃ first rest, name.toList = first :: rest ∧ isIdentifierStart first = true ∧
        ∀ c ∈ rest, isIdentifierRest c = true := by
  unfold isIdentifier
  cases name.toList with
  | nil => simp
  | cons first rest =>
    rw [Bool.and_eq_true, List.all_eq_true]
    constructor
    · rintro ⟨hfirst, hrest⟩
      exact ⟨first, rest, rfl, hfirst, hrest⟩
    · rintro ⟨_, _, heq, hfirst, hrest⟩
      cases heq
      exact ⟨hfirst, hrest⟩

theorem lt_of_isIdentifierRest {c : Char} (h : isIdentifierRest c = true) : c.toNat < 0x80 := by
  simp only [isIdentifierRest, Bool.or_eq_true, beq_iff_eq] at h
  rcases h with ((h | rfl) | rfl) | rfl
  · exact lt_of_isAlphanum h
  all_goals decide

theorem isIdentifierRest_of_start {c : Char} (h : isIdentifierStart c = true) : isIdentifierRest c = true := by
  simp only [isIdentifierStart, isIdentifierRest, Char.isAlphanum, Bool.or_eq_true] at h ⊢
  exact .inl (h.imp_left (.imp_left .inl))

/-- Identifiers are ASCII texts. -/
theorem lt_of_isIdentifier {name : String} (h : isIdentifier name = true) : ∀ c ∈ name.toList, c.toNat < 0x80 := by
  obtain ⟨first, rest, hname, hfirst, hrest⟩ := (isIdentifier_iff name).mp h
  rw [hname]
  intro c hc
  rcases List.mem_cons.mp hc with rfl | hc
  · exact lt_of_isIdentifierRest (isIdentifierRest_of_start hfirst)
  · exact lt_of_isIdentifierRest (hrest c hc)

/-! ## The pattern -/

def identifierStarts : CharSet := unionAll [range 'a'.toNat 'z'.toNat, single '_', single '$']

def identifierRests : CharSet :=
  unionAll [range 'a'.toNat 'z'.toNat, range '0'.toNat '9'.toNat, single '_', single '$', single '-']

theorem identifierPattern_eq :
    Regex.parse? identifierPattern =
      some (flagged [.chars (foldCase identifierStarts), .repeat (.chars (foldCase identifierRests)) 0 none]) := by
  decide +kernel

theorem contains_identifierStarts (c : Char) :
    (foldCase identifierStarts).contains c.toNat = true ↔ isIdentifierStart (plainLetter c) = true :=
  contains_iff_plainLetter rfl (fun _ h => lt_of_isIdentifierRest (isIdentifierRest_of_start h)) (by decide +kernel) c

theorem contains_identifierRests (c : Char) :
    (foldCase identifierRests).contains c.toNat = true ↔ isIdentifierRest (plainLetter c) = true :=
  contains_iff_plainLetter rfl (fun _ => lt_of_isIdentifierRest) (by decide +kernel) c

/-- **The pattern describes the names that are identifiers once their letters are plain.** -/
theorem matchesIdentifierPattern_iff (name : String) :
    matchesIdentifierPattern name = true ↔ isIdentifier (plainText name) = true := by
  rw [matchesIdentifierPattern, identifierPattern_eq, Format.isMatchOf, Option.any_some,
    isMatch_flagged (by decide), isIdentifier_iff, plainText_toList]
  simp only [List.map_cons, List.map_nil, List.prod_cons, List.prod_nil, mul_one, Language.mem_mul,
    mem_language_chars, mem_language_star_chars, contains_identifierStarts, contains_identifierRests]
  constructor
  · rintro ⟨_, ⟨c, hc, rfl⟩, rest, hrest, hname⟩
    refine ⟨plainLetter c, rest.map plainLetter, ?_, hc, ?_⟩
    · rw [← hname, List.map_append, List.map_singleton, List.singleton_append]
    · simpa using hrest
  · rintro ⟨_, _, hname, hfirst, hrest⟩
    obtain ⟨c, rest, hsplit, rfl, rfl⟩ := List.map_eq_cons_iff.mp hname
    exact ⟨[c], ⟨c, hfirst, rfl⟩, rest, by simpa using hrest, hsplit.symm⟩

/-! ## The theorem -/

/-- **The two rules agree on a name, unless** it holds a long s or a Kelvin sign and is an identifier once these
    are plain letters. -/
theorem identifier_rules_agree_iff (name : String) :
    (isIdentifier name = true ↔ matchesIdentifierPattern name = true) ↔
      ¬ ((∃ c ∈ name.toList, c = '\u017f' ∨ c = '\u212a') ∧ isIdentifier (plainText name) = true) := by
  rw [matchesIdentifierPattern_iff]
  constructor
  · rintro hagree ⟨⟨c, hc, hvariant⟩, hplain⟩
    have hascii : c.toNat < 0x80 := lt_of_isIdentifier (hagree.mpr hplain) c hc
    rcases hvariant with rfl | rfl
    · exact absurd hascii (by decide)
    · exact absurd hascii (by decide)
  · intro hnot
    by_cases hvariant : ∃ c ∈ name.toList, c = '\u017f' ∨ c = '\u212a'
    · have hplain : isIdentifier (plainText name) ≠ true := fun h => hnot ⟨hvariant, h⟩
      have hname : isIdentifier name ≠ true := by
        intro h
        apply hplain
        rwa [plainText_of_plain fun c hc => plainLetter_of_ascii (lt_of_isIdentifier h c hc)]
      exact iff_of_false hname hplain
    · have hplain : plainText name = name := by
        refine plainText_of_plain fun c hc => ?_
        rcases plainLetter_cases c with h | ⟨h, -⟩ | ⟨h, -⟩
        · exact h
        · exact absurd ⟨c, hc, .inl h⟩ hvariant
        · exact absurd ⟨c, hc, .inr h⟩ hvariant
      rw [hplain]

/-- **A name with a long s is described by the pattern** and is no identifier. -/
theorem longS_described :
    matchesIdentifierPattern "\u017fize" = true ∧ isIdentifier "\u017fize" = false ∧
      ¬ (isIdentifier "\u017fize" = true ↔ matchesIdentifierPattern "\u017fize" = true) := by
  decide +kernel

end JsonSchema
