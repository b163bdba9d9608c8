import JsonSchema.Proofs.Json.Pointers

/-!
# What pointers are read

A text that is read as a pointer is the one that its tokens are written as: the pieces between its slashes have
none in them, and what is unescaped from such a piece has no other spelling.  So **reading and writing pointers
undo each other** (`Pointer.tokens_round_trip`).
-/

set_option autoImplicit false

namespace JsonSchema

/-! ## Escapes -/

/-- The text with another one in the place of each occurrence of a character. -/
def replaceEach (c : Char) (new text : String) : String :=
  String.ofList (text.toList.flatMap fun d => if d = c then new.toList else [d])

/-- Escaping replaces the tildes first and the slashes then. -/
theorem escapeToken_eq_replaceEach (token : String) :
    escapeToken token = replaceEach '/' "~1" (replaceEach '~' "~0" token) := by
  rw [← String.toList_inj, escapeToken_toList]
  simp only [replaceEach, String.toList_ofList, List.flatMap_assoc]
  refine List.flatMap_congr fun c _ => ?_
  by_cases htilde : c = '~'
  · subst htilde
    rfl
  · by_cases hslash : c = '/' <;> simp [escapeChar, htilde, hslash]

/-- What is unescaped, if there is no slash in it, has been escaped. -/
theorem eq_escaped_of_unescapeToken? {cs token : List Char} (hslash : '/' ∉ cs)
    (h : unescapeToken? cs = some token) : cs = token.flatMap escapeChar := by
  fun_induction unescapeToken? cs generalizing token with
  | case1 =>
    cases h
    rfl
  | case2 rest ih | case3 rest ih =>
    obtain ⟨more, hmore, rfl⟩ := Option.map_eq_some_iff.mp h
    rw [ih (fun hmem => hslash (by simp [hmem])) hmore]
    rfl
  | case4 => cases h
  | case5 c rest _ _ htilde ih =>
    obtain ⟨more, hmore, rfl⟩ := Option.map_eq_some_iff.mp h
    have hc : c ≠ '/' := fun hc => hslash (hc ▸ List.mem_cons_self)
    have hplain : escapeChar c = [c] := by simp [escapeChar, htilde, hc]
    rw [List.flatMap_cons, hplain, ← ih (fun hmem => hslash (List.mem_cons_of_mem c hmem)) hmore]
    rfl

/-! ## Pieces -/

/-- A text is its pieces with the separator in front of each, but for that in front of the first. -/
theorem flatMap_splitAtChar (sep : Char) (cs : List Char) :
    (splitAtChar sep cs).flatMap (sep :: ·) = sep :: cs := by
  induction cs with
  | nil => rfl
  | cons c rest ih =>
    rw [splitAtChar]
    split
    · next hsep => rw [List.flatMap_cons, ih, hsep]; rfl
    · split
      · next hsplit => rw [hsplit] at ih; cases ih
      · next piece pieces hsplit =>
        rw [hsplit, List.flatMap_cons, List.cons_append] at ih
        rw [List.flatMap_cons, List.cons_append, List.cons_append, (List.cons.inj ih).2]

theorem notMem_of_mem_splitAtChar {sep : Char} {cs piece : List Char} (h : piece ∈ splitAtChar sep cs) :
    sep ∉ piece := by
  induction cs generalizing piece with
  | nil =>
    rw [List.mem_singleton.mp h]
    exact List.not_mem_nil
  | cons c rest ih =>
    rw [splitAtChar] at h
    split at h
    · rcases List.mem_cons.mp h with rfl | h
      · exact List.not_mem_nil
      · exact ih h
    · next hsep =>
      split at h
      · rw [List.mem_singleton.mp h, List.mem_singleton]
        exact Ne.symm hsep
      · next first pieces hsplit =>
        rw [hsplit] at ih
        rcases List.mem_cons.mp h with rfl | h
        · rw [List.mem_cons, not_or]
          exact ⟨Ne.symm hsep, ih List.mem_cons_self⟩
        · exact ih (List.mem_cons_of_mem first h)

namespace Pointer

theorem render_toList (tokens : List String) :
    (render tokens).toList = tokens.flatMap fun t => '/' :: (escapeToken t).toList := by
  induction tokens with
  | nil => rfl
  | cons token rest ih => rw [render_cons_toList, ih, List.flatMap_cons, List.cons_append]

/-- Tokens that are unescaped from pieces without slashes are written as those. -/
theorem eq_escaped_of_mapM {pieces : List (List Char)} {tokens : List String}
    (hpieces : ∀ piece ∈ pieces, '/' ∉ piece)
    (h : pieces.mapM (fun piece => (unescapeToken? piece).map String.ofList) = some tokens) :
    pieces = tokens.map fun t => (escapeToken t).toList := by
  induction pieces generalizing tokens with
  | nil =>
    cases h
    rfl
  | cons piece pieces ih =>
    obtain ⟨hpiece, hpieces⟩ := List.forall_mem_cons.mp hpieces
    rw [List.mapM_cons] at h
    obtain ⟨token, htoken, h⟩ := Option.bind_eq_some_iff.mp h
    obtain ⟨rest, hrest, h⟩ := Option.bind_eq_some_iff.mp h
    obtain rfl := Option.some.inj h
    obtain ⟨cs, hcs, rfl⟩ := Option.map_eq_some_iff.mp htoken
    rw [List.map_cons, escapeToken_toList, String.toList_ofList, ← eq_escaped_of_unescapeToken? hpiece hcs,
      ← ih hpieces hrest]

/-- **A text that is read as a pointer is what its tokens are written as.** -/
theorem render_of_parse? {pointer : String} {tokens : List String} (h : parse? pointer = some tokens) :
    render tokens = pointer := by
  unfold parse? at h
  split at h
  · next hnil =>
    cases h
    exact (String.toList_inj.mp hnil).symm
  · next rest hslash =>
    have hpieces := eq_escaped_of_mapM (fun _ => notMem_of_mem_splitAtChar) h
    rw [← String.toList_inj, hslash, ← flatMap_splitAtChar '/' rest, hpieces, render_toList, List.flatMap_map]
  · cases h

/-- **Writing and reading pointers undo each other.** -/
theorem tokens_round_trip :
    (∀ token, escapeToken token = replaceEach '/' "~1" (replaceEach '~' "~0" token)) ∧
      (∀ tokens : List String, parse? (String.join (tokens.map fun t => "/" ++ escapeToken t)) = some tokens) ∧
      ∀ pointer tokens, parse? pointer = some tokens →
        String.join (tokens.map fun t => "/" ++ escapeToken t) = pointer :=
  ⟨escapeToken_eq_replaceEach, parse?_render, fun _ _ => render_of_parse?⟩

/-- An empty token and one with all that is escaped. -/
theorem escaped_round_trip : parse? "//~01~1" = some ["", "~1/"] ∧
    String.join (["", "~1/"].map fun t => "/" ++ escapeToken t) = "//~01~1" := by
  have hread : parse? "//~01~1" = some ["", "~1/"] := by decide
  exact ⟨hread, tokens_round_trip.2.2 _ _ hread⟩

end Pointer

end JsonSchema
