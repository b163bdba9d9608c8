import JsonSchema.Json.Pointer
import Mathlib.Data.List.Basic

/-!
# Pointers, written and read

`Pointer.render` escapes what `Pointer.parse?` cuts apart and unescapes: **reading a written pointer
gives back its tokens** (`Pointer.parse?_render`), whatever characters stand in them.  The number of an
array's element is a token that needs no escape, and following it leads to the element
(`Pointer.child?_toString`).

Following tokens looks up names, so it finds a member only if no other of that name stands in front of
it.  `Json.Sound` says so of a value and of everything inside it.
-/

set_option autoImplicit false

namespace JsonSchema

/-! ## Escaped tokens -/

/-- What a character of a token is written as. -/
def escapeChar (c : Char) : List Char :=
  if c = '~' then ['~', '0'] else if c = '/' then ['~', '1'] else [c]

theorem escapeToken_toList (token : String) :
    (escapeToken token).toList = token.toList.flatMap escapeChar := by
  simp only [escapeToken, String.toList_ofList]
  rfl

theorem unescapeToken?_escapeChar (c : Char) (rest : List Char) :
    unescapeToken? (escapeChar c ++ rest) = (unescapeToken? rest).map (c :: ·) := by
  by_cases htilde : c = '~'
  · subst htilde
    rfl
  by_cases hslash : c = '/'
  · subst hslash
    rfl
  · simp only [escapeChar, htilde, hslash, if_false, List.singleton_append]
    rw [unescapeToken?, if_neg htilde]
    · exact fun _ h => absurd h htilde
    · exact fun _ h => absurd h htilde

theorem unescapeToken?_flatMap (cs : List Char) :
    unescapeToken? (cs.flatMap escapeChar) = some cs := by
  induction cs with
  | nil => rfl
  | cons c rest ih => rw [List.flatMap_cons, unescapeToken?_escapeChar, ih, Option.map_some]

/-- No slash is left in an escaped token. -/
theorem slash_notMem_escapeToken (token : String) : '/' ∉ (escapeToken token).toList := by
  rw [escapeToken_toList, List.mem_flatMap]
  rintro ⟨c, -, hc⟩
  unfold escapeChar at hc
  split at hc
  · simp at hc
  · split at hc
    · simp at hc
    · next hslash => exact hslash (List.mem_singleton.mp hc).symm

/-- A token without the two characters that are escaped is written as it is. -/
theorem escapeToken_eq_self {token : String} (h : ∀ c ∈ token.toList, c ≠ '~' ∧ c ≠ '/') :
    escapeToken token = token := by
  have hchars : ∀ cs : List Char, (∀ c ∈ cs, c ≠ '~' ∧ c ≠ '/') → cs.flatMap escapeChar = cs := by
    intro cs hcs
    induction cs with
    | nil => rfl
    | cons c rest ih =>
      obtain ⟨⟨htilde, hslash⟩, hrest⟩ := List.forall_mem_cons.mp hcs
      rw [List.flatMap_cons, ih hrest]
      simp [escapeChar, htilde, hslash]
  rw [← String.toList_inj, escapeToken_toList, hchars _ h]

/-! ## Pieces of a text -/

theorem splitAtChar_of_notMem {sep : Char} {piece : List Char} (h : sep ∉ piece) :
    splitAtChar sep piece = [piece] := by
  induction piece with
  | nil => rfl
  | cons c rest ih =>
    obtain ⟨hc, hrest⟩ := not_or.mp (mt List.mem_cons.mpr h)
    rw [splitAtChar, if_neg (Ne.symm hc), ih hrest]

theorem splitAtChar_append {sep : Char} {piece : List Char} (h : sep ∉ piece) (rest : List Char) :
    splitAtChar sep (piece ++ sep :: rest) = piece :: splitAtChar sep rest := by
  induction piece with
  | nil => simp [splitAtChar]
  | cons c cs ih =>
    obtain ⟨hc, hcs⟩ := not_or.mp (mt List.mem_cons.mpr h)
    rw [List.cons_append, splitAtChar, if_neg (Ne.symm hc), ih hcs]

namespace Pointer

/-! ## Written pointers -/

theorem render_nil : render [] = "" := rfl

theorem render_cons (token : String) (rest : List String) :
    render (token :: rest) = "/" ++ escapeToken token ++ render rest := by
  rw [render, List.map_cons, String.join_cons]
  rfl

theorem render_append (front back : List String) : render (front ++ back) = render front ++ render back := by
  rw [render, List.map_append, String.join_append]
  rfl

theorem render_singleton (token : String) : render [token] = "/" ++ escapeToken token := by
  rw [render_cons, render_nil, String.append_empty]

theorem render_cons_toList (token : String) (rest : List String) :
    (render (token :: rest)).toList = '/' :: ((escapeToken token).toList ++ (render rest).toList) := by
  rw [render_cons, String.toList_append, String.toList_append]
  rfl

/-- What stands behind the first slash of a pointer is cut into its escaped tokens. -/
theorem splitAtChar_render (token : String) (rest : List String) :
    splitAtChar '/' ((escapeToken token).toList ++ (render rest).toList) =
      (token :: rest).map fun t => (escapeToken t).toList := by
  induction rest generalizing token with
  | nil =>
    rw [render_nil, show "".toList = [] from rfl, List.append_nil,
      splitAtChar_of_notMem (slash_notMem_escapeToken token)]
    rfl
  | cons next rest ih =>
    rw [render_cons_toList, splitAtChar_append (slash_notMem_escapeToken token), ih]
    rfl

/-- **Reading a written pointer gives back its tokens.** -/
theorem parse?_render (tokens : List String) : parse? (render tokens) = some tokens := by
  have hpieces : ∀ ts : List String,
      (ts.map fun t => (escapeToken t).toList).mapM (fun piece => (unescapeToken? piece).map String.ofList) =
        some ts := by
    intro ts
    induction ts with
    | nil => rfl
    | cons t rest ih =>
      rw [List.map_cons, List.mapM_cons, ih, escapeToken_toList, unescapeToken?_flatMap]
      simp
  cases tokens with
  | nil => rfl
  | cons token rest =>
    unfold parse?
    rw [render_cons_toList]
    show (splitAtChar '/' _).mapM _ = _
    rw [splitAtChar_render]
    exact hpieces _

/-! ## Numbers of elements -/

/-- The digits of a number spell it. -/
theorem natOfDigits_toDigits (i : Nat) : natOfDigits (Nat.toDigits 10 i) = i := by
  have heq : natOfDigits (Nat.toDigits 10 i) = Nat.ofDigitChars 10 (Nat.toDigits 10 i) 0 := by
    rw [Nat.ofDigitChars_eq_foldl]
    unfold natOfDigits
    congr 1
    funext n c
    rw [Nat.mul_comm]
  rw [heq, Nat.ofDigitChars_ten_toDigits]

theorem toString_toList (i : Nat) : (toString i).toList = Nat.toDigits 10 i := by
  rw [Nat.toString_eq_ofList_toDigits, String.toList_ofList]

theorem isDigit_of_mem_toString {i : Nat} {c : Char} (h : c ∈ (toString i).toList) : c.isDigit := by
  rw [toString_toList] at h
  exact Nat.isDigit_of_mem_toDigits (by decide) (by decide) h

/-- The number of an element needs no escape. -/
theorem escapeToken_toString (i : Nat) : escapeToken (toString i) = toString i := by
  refine escapeToken_eq_self fun c hc => ⟨?_, ?_⟩ <;>
  · rintro rfl
    exact absurd (isDigit_of_mem_toString hc) (by decide)

/-- A numeral does not start with zero, unless it is that of zero. -/
theorem head?_toDigits {i : Nat} (h : 0 < i) : (Nat.toDigits 10 i).head? ≠ some '0' := by
  induction i using Nat.strongRecOn with
  | _ i ih =>
    by_cases hsmall : i < 10
    · rw [Nat.toDigits_of_lt_base hsmall]
      intro hzero
      have hdigit : i = 0 := Nat.digitChar_eq_zero.mp (Option.some.inj hzero)
      omega
    · rw [Nat.toDigits_of_base_le (by decide) (by omega), List.head?_append_of_ne_nil _ Nat.toDigits_ne_nil]
      exact ih (i / 10) (by omega) (by omega)

/-- Reading the number of an element gives back the number. -/
theorem index?_toString {i : Nat} (h : i < UInt64.size) : index? (toString i) = some i := by
  have hplus : ∀ rest, Nat.toDigits 10 i ≠ '+' :: rest := by
    intro rest heq
    have hmem : '+' ∈ (toString i).toList := by
      rw [toString_toList, heq]
      exact List.mem_cons_self
    exact absurd (isDigit_of_mem_toString hmem) (by decide)
  have hdigits : (Nat.toDigits 10 i).all Char.isDigit = true := by
    refine List.all_eq_true.mpr fun c hc => isDigit_of_mem_toString (i := i) ?_
    rwa [toString_toList]
  -- `hplus` is what decides the match on the sign
  simp [index?, hdigits, Nat.toDigits_ne_nil, natOfDigits_toDigits, h]

/-- **The number of an element leads to the element.** -/
theorem child?_toString {items : List Json} {i : Nat} (h : i < UInt64.size) :
    child? (.arr items) (toString i) = items[i]? := by
  unfold child?
  dsimp only
  split
  · next d ds heq =>
    rw [toString_toList] at heq
    have hpos : 0 < i := by
      by_contra hzero
      rw [Nat.eq_zero_of_not_pos hzero, Nat.toDigits_zero] at heq
      simp at heq
    exact absurd (by rw [heq]; rfl) (head?_toDigits hpos)
  · rw [index?_toString h, Option.bind_some]

/-! ## Following tokens -/

theorem follow?_append (v : Json) (front back : List String) :
    follow? v (front ++ back) = (follow? v front).bind (follow? · back) := by
  induction front generalizing v with
  | nil => rfl
  | cons token rest ih =>
    rw [List.cons_append, follow?, follow?]
    cases child? v token with
    | none => rfl
    | some w => exact ih w

theorem follow?_singleton (v : Json) (token : String) : follow? v [token] = child? v token := by
  rw [follow?]
  cases child? v token <;> rfl

/-- One token more leads on from where the others lead. -/
theorem follow?_concat {v w : Json} {front : List String} (h : follow? v front = some w) (token : String) :
    follow? v (front ++ [token]) = child? w token := by
  rw [follow?_append, h, Option.bind_some, follow?_singleton]

end Pointer

/-! ## Values with one member a name -/

/-- Here and everywhere inside, an object has one member of each name and an array fewer than `2 ^ 64`
    elements. -/
inductive Json.Sound : Json → Prop where
  | leaf {v : Json} : v.arr? = none → v.obj? = none → Sound v
  | arr {items : List Json} : items.length < UInt64.size → (∀ v ∈ items, Sound v) → Sound (.arr items)
  | obj {members : List (String × Json)} : (members.map Prod.fst).Nodup → (∀ m ∈ members, Sound m.2) →
      Sound (.obj members)

theorem mem_of_lookup {name : String} {v : Json} {members : List (String × Json)}
    (h : members.lookup name = some v) : (name, v) ∈ members := by
  obtain ⟨before, after, rfl, -⟩ := List.lookup_eq_some_iff.mp h
  simp

/-- Where names are told apart, looking up the name of a member finds the member. -/
theorem lookup_of_mem {members : List (String × Json)} (h : (members.map Prod.fst).Nodup)
    {m : String × Json} (hm : m ∈ members) : members.lookup m.1 = some m.2 := by
  obtain ⟨before, after, rfl⟩ := List.append_of_mem hm
  refine List.lookup_eq_some_iff.mpr ⟨before, after, rfl, fun other hother => ?_⟩
  rw [List.map_append, List.map_cons, List.nodup_append] at h
  have hne : other.1 ≠ m.1 := h.2.2 other.1 (List.mem_map_of_mem hother) m.1 List.mem_cons_self
  simpa using hne.symm

namespace Json.Sound

variable {items : List Json} {members : List (String × Json)}

theorem length_lt (h : (Json.arr items).Sound) : items.length < UInt64.size := by
  cases h with
  | leaf harr _ => cases harr
  | arr hlength _ => exact hlength

theorem item (h : (Json.arr items).Sound) {v : Json} (hv : v ∈ items) : v.Sound := by
  cases h with
  | leaf harr _ => cases harr
  | arr _ hitems => exact hitems v hv

theorem nodup (h : (Json.obj members).Sound) : (members.map Prod.fst).Nodup := by
  cases h with
  | leaf _ hobj => cases hobj
  | obj hnodup _ => exact hnodup

theorem member (h : (Json.obj members).Sound) {m : String × Json} (hm : m ∈ members) : m.2.Sound := by
  cases h with
  | leaf _ hobj => cases hobj
  | obj _ hmembers => exact hmembers m hm

/-- A token leads from a sound value to a sound one. -/
theorem child {v w : Json} (h : v.Sound) {token : String} (hw : Pointer.child? v token = some w) :
    w.Sound := by
  unfold Pointer.child? at hw
  split at hw
  · obtain ⟨before, after, rfl, -⟩ := List.lookup_eq_some_iff.mp hw
    exact h.member (m := (token, w)) (by simp)
  · split at hw
    · cases hw
    · obtain ⟨i, -, hi⟩ := Option.bind_eq_some_iff.mp hw
      exact h.item (List.mem_of_getElem? hi)
  · cases hw

/-- Tokens lead from a sound value to a sound one. -/
theorem follow {tokens : List String} :
    ∀ {v w : Json}, v.Sound → Pointer.follow? v tokens = some w → w.Sound := by
  induction tokens with
  | nil =>
    intro v w hv hw
    cases hw
    exact hv
  | cons token rest ih =>
    intro v w hv hw
    obtain ⟨u, hu, hw⟩ := Option.bind_eq_some_iff.mp hw
    exact ih (hv.child hu) hw

end Json.Sound

end JsonSchema
