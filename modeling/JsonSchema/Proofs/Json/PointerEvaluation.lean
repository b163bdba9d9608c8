import JsonSchema.Proofs.Text.Numerals

/-!
# Where tokens lead

A token names a part of a value: the member of that name, or the element whose number in decimal it is, without
sign and without leading zeros (`Json.Names`).  Following tokens finds all that they name one after another, and
more: it takes the number of an element with a plus sign too, and behind the sign with leading zeros.  **It finds
just what the tokens name if and only if it is not led on by a sign** (`pointer_evaluation_iff`).
-/

set_option autoImplicit false

namespace JsonSchema

/-! ## What tokens name -/

namespace Json

/-- The part of a value that a token names. -/
inductive Names : Json → String → Json → Prop where
  | member {members : List (String × Json)} {token : String} {v : Json} :
      members.lookup token = some v → Names (.obj members) token v
  | element {items : List Json} {token : String} {v : Json} :
      IsNumeral token.toList → items[natOfDigits token.toList]? = some v → Names (.arr items) token v

/-- The part that tokens name one after another, each in what those before it name. -/
inductive Evaluates : Json → List String → Json → Prop where
  | whole (v : Json) : Evaluates v [] v
  | part {v u w : Json} {token : String} {rest : List String} :
      v.Names token u → Evaluates u rest w → Evaluates v (token :: rest) w

variable {v w : Json} {items : List Json} {token : String}

theorem Names.not_signed (h : (arr items).Names token v) : token.toList.head? ≠ some '+' := by
  cases h with
  | element hnumeral _ =>
    intro hplus
    exact absurd (hnumeral.digits '+' (List.mem_of_head? hplus)) (by decide)

theorem Evaluates.split {front back : List String} (h : v.Evaluates (front ++ back) w) :
    ∃ u, v.Evaluates front u ∧ u.Evaluates back w := by
  induction front generalizing v with
  | nil => exact ⟨v, .whole v, h⟩
  | cons token front ih =>
    cases h with
    | part hname hrest =>
      obtain ⟨u, hfront, hback⟩ := ih hrest
      exact ⟨u, .part hname hfront, hback⟩

end Json

/-! ## What following them finds -/

namespace Pointer

variable {v w : Json} {items : List Json} {token : String} {tokens : List String}

/-- What is read of a text without a plus sign: digits that spell a number below `2 ^ 64`. -/
theorem index?_unsigned (h : token.toList.head? ≠ some '+') {i : Nat} :
    index? token = some i ↔ token.toList ≠ [] ∧ (∀ d ∈ token.toList, d.isDigit = true) ∧
      natOfDigits token.toList = i ∧ i < UInt64.size := by
  have hread : index? token =
      if token.toList.isEmpty || !token.toList.all Char.isDigit then none
      else if natOfDigits token.toList < UInt64.size then some (natOfDigits token.toList) else none := by
    unfold index?
    dsimp only
    split
    · next hsign => exact absurd (by rw [hsign]; rfl) h
    · rfl
  rw [hread]
  by_cases hwell : token.toList ≠ [] ∧ ∀ d ∈ token.toList, d.isDigit = true
  · have hcond : (token.toList.isEmpty || !token.toList.all Char.isDigit) = false := by simpa using hwell
    rw [hcond, if_neg Bool.false_ne_true, Option.ite_none_right_eq_some, Option.some.injEq]
    constructor
    · rintro ⟨hlt, rfl⟩
      exact ⟨hwell.1, hwell.2, rfl, hlt⟩
    · rintro ⟨-, -, rfl, hlt⟩
      exact ⟨hlt, rfl⟩
  · have hcond : (token.toList.isEmpty || !token.toList.all Char.isDigit) = true := by
      by_contra hcond
      exact hwell (by simpa using hcond)
    rw [hcond, if_pos rfl]
    constructor
    · exact fun hnone => nomatch hnone
    · rintro ⟨hne, hdigits, -⟩
      exact absurd ⟨hne, hdigits⟩ hwell

/-- An element that is found without a plus sign is the one that the token names. -/
theorem child?_unsigned (h : token.toList.head? ≠ some '+') :
    child? (.arr items) token = some v ↔
      IsNumeral token.toList ∧ natOfDigits token.toList < UInt64.size ∧
        items[natOfDigits token.toList]? = some v := by
  unfold child?
  dsimp only
  split
  · next d ds hpadded =>
    constructor
    · exact fun hnone => nomatch hnone
    · rintro ⟨hnumeral, -⟩
      have hzero := hnumeral.not_padded (by rw [hpadded]; rfl)
      rw [hpadded] at hzero
      cases hzero
  · next hunpadded =>
    simp only [Option.bind_eq_some_iff, index?_unsigned h]
    constructor
    · rintro ⟨i, ⟨hne, hdigits, rfl, hlt⟩, hitem⟩
      refine ⟨⟨hdigits, hne, fun hzero => ?_⟩, hlt, hitem⟩
      obtain ⟨rest, hrest⟩ := List.head?_eq_some_iff.mp hzero
      cases rest with
      | nil => exact hrest
      | cons d ds => exact absurd hrest (hunpadded d ds)
    · rintro ⟨hnumeral, hlt, hitem⟩
      exact ⟨_, ⟨hnumeral.ne_nil, hnumeral.digits, rfl, hlt⟩, hitem⟩

/-- What a token names in a sound value is found. -/
theorem child?_of_names (hv : v.Sound) (h : v.Names token w) : child? v token = some w := by
  cases h with
  | member hlookup => exact hlookup
  | @element items _ _ hnumeral hitem =>
    have hlt : natOfDigits token.toList < UInt64.size :=
      Nat.lt_trans (List.getElem?_eq_some_iff.mp hitem).1 hv.length_lt
    exact (child?_unsigned (Json.Names.element hnumeral hitem).not_signed).mpr ⟨hnumeral, hlt, hitem⟩

/-- What is found is what the token names, unless an element is named with a sign. -/
theorem names_of_child? (h : child? v token = some w) :
    v.Names token w ∨ v.arr?.isSome = true ∧ token.toList.head? = some '+' := by
  cases v with
  | obj members => exact .inl (.member h)
  | arr items =>
    by_cases hsign : token.toList.head? = some '+'
    · exact .inr ⟨rfl, hsign⟩
    · obtain ⟨hnumeral, -, hitem⟩ := (child?_unsigned hsign).mp h
      exact .inl (.element hnumeral hitem)
  | null | bool _ | num _ | str _ => cases h

/-- Following the tokens leads on by one with a plus sign, in an array. -/
def LedOnBySign (v : Json) (tokens : List String) : Prop :=
  ∃ front token back u, tokens = front ++ token :: back ∧ follow? v front = some u ∧ u.arr?.isSome = true ∧
    token.toList.head? = some '+' ∧ (follow? v tokens).isSome = true

theorem LedOnBySign.isSome (h : LedOnBySign v tokens) : (follow? v tokens).isSome = true := by
  obtain ⟨_, _, _, _, _, _, _, _, hsome⟩ := h
  exact hsome

theorem follow?_of_evaluates (hv : v.Sound) (h : v.Evaluates tokens w) : follow? v tokens = some w := by
  induction h with
  | whole => rfl
  | part hname _ ih =>
    have hchild := child?_of_names hv hname
    rw [follow?, hchild, Option.bind_some]
    exact ih (hv.child hchild)

theorem evaluates_of_follow? (h : follow? v tokens = some w) : v.Evaluates tokens w ∨ LedOnBySign v tokens := by
  induction tokens generalizing v with
  | nil =>
    cases h
    exact .inl (.whole w)
  | cons token rest ih =>
    obtain ⟨u, hu, hw⟩ := Option.bind_eq_some_iff.mp h
    rcases names_of_child? hu with hname | ⟨harr, hsign⟩
    · rcases ih hw with hrest | ⟨front, signed, back, x, rfl, hx, harr, hsign, -⟩
      · exact .inl (.part hname hrest)
      · refine .inr ⟨token :: front, signed, back, x, rfl, ?_, harr, hsign, Option.isSome_of_eq_some h⟩
        rw [follow?, hu, Option.bind_some, hx]
    · exact .inr ⟨[], token, rest, v, rfl, rfl, harr, hsign, Option.isSome_of_eq_some h⟩

/-- What tokens name one after another is named without a sign. -/
theorem not_evaluates_of_ledOnBySign (hv : v.Sound) (hled : LedOnBySign v tokens) : ¬ v.Evaluates tokens w := by
  intro h
  obtain ⟨front, token, back, u, rfl, hu, harr, hsign, -⟩ := hled
  obtain ⟨u', hfront, hback⟩ := h.split
  obtain rfl : u' = u := Option.some.inj ((follow?_of_evaluates hv hfront).symm.trans hu)
  cases hback with
  | part hname _ =>
    cases u' with
    | arr items => exact hname.not_signed hsign
    | _ => cases harr

end Pointer

/-- **Where following tokens leads.**  In a sound value it leads to all that they name one after another.  It leads
    to just that if and only if no token with a plus sign leads it on from an array. -/
theorem pointer_evaluation_iff {v : Json} (hv : v.Sound) (tokens : List String) :
    (∀ w, v.Evaluates tokens w → Pointer.follow? v tokens = some w) ∧
      ((∀ w, Pointer.follow? v tokens = some w ↔ v.Evaluates tokens w) ↔ ¬ Pointer.LedOnBySign v tokens) := by
  refine ⟨fun w => Pointer.follow?_of_evaluates hv, fun h hled => ?_, fun hnot w => ⟨fun h => ?_, ?_⟩⟩
  · obtain ⟨w, hw⟩ := Option.isSome_iff_exists.mp hled.isSome
    exact Pointer.not_evaluates_of_ledOnBySign hv hled ((h w).mp hw)
  · exact (Pointer.evaluates_of_follow? h).resolve_right hnot
  · exact Pointer.follow?_of_evaluates hv

/-- A list of numbers under a name. -/
def listedNumbers : Json := .obj [("list", .arr [(10 : Nat), (20 : Nat)])]

theorem listedNumbers_sound : listedNumbers.Sound := by
  have hlist : (Json.arr [(10 : Nat), (20 : Nat)]).Sound := .arr (by decide) fun v hv => by
    simp only [List.mem_cons, List.not_mem_nil, or_false] at hv
    rcases hv with rfl | rfl <;> exact .leaf rfl rfl
  exact .obj (by simp) (List.forall_mem_singleton.mpr hlist)

/-- Names and numbers without signs lead to what they name. -/
theorem numbered_followed : listedNumbers.Sound ∧ Pointer.follow? listedNumbers ["list", "1"] = some (20 : Nat) ∧
    ∀ w, Pointer.follow? listedNumbers ["list", "1"] = some w ↔ listedNumbers.Evaluates ["list", "1"] w := by
  refine ⟨listedNumbers_sound, rfl, (pointer_evaluation_iff listedNumbers_sound ["list", "1"]).2.mpr ?_⟩
  rintro ⟨front, token, back, u, htokens, -, -, hsign, -⟩
  have hmem : token ∈ ["list", "1"] := by simp [htokens]
  have hplain : ∀ t ∈ ["list", "1"], t.toList.head? ≠ some '+' := by decide
  exact hplain token hmem hsign

/-- **With a plus sign the number of an element is followed**, and names nothing. -/
theorem signed_followed : Pointer.follow? listedNumbers ["list", "+1"] = some (20 : Nat) ∧
    ∀ w, ¬ listedNumbers.Evaluates ["list", "+1"] w := by
  refine ⟨rfl, fun w => Pointer.not_evaluates_of_ledOnBySign listedNumbers_sound ?_⟩
  exact ⟨["list"], "+1", [], .arr [(10 : Nat), (20 : Nat)], rfl, rfl, rfl, rfl, rfl⟩

end JsonSchema
