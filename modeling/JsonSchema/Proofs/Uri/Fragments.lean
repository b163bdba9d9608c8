import JsonSchema.Proofs.Registry.Runs
import JsonSchema.Uri.Parser
import Mathlib.Data.List.TakeWhile

/-!
# The fragment of what is read

The fragment of a URI begins behind the first hash of the text it is read from.  A reader takes parts
without a hash off the front of the text (`Uri.Leaves`) until a question mark, a hash or nothing is left,
and what is left is the query and the fragment.  **So the base that a reference is joined to has no say in
the fragment** (`Uri.read_fragment`).
-/

set_option autoImplicit false

namespace JsonSchema

namespace Uri

variable {scheme cs rest after : List Char}

/-- The fragment behind the first hash of a text. -/
def fragmentIn? (cs : List Char) : Option (List Char) :=
  match cs.dropWhile (· ≠ '#') with
  | '#' :: rest => some (Percent.encode inFragmentSet rest)
  | _ => none

/-! ## What reading leaves -/

/-- Taking a part without a hash off the front of the first text leaves the second one. -/
def Leaves (cs rest : List Char) : Prop := ∃ front, cs = front ++ rest ∧ '#' ∉ front

namespace Leaves

theorem refl (cs : List Char) : Leaves cs cs := ⟨[], rfl, List.not_mem_nil⟩

theorem trans (h : Leaves cs rest) (h' : Leaves rest after) : Leaves cs after := by
  obtain ⟨front, rfl, hfront⟩ := h
  obtain ⟨more, rfl, hmore⟩ := h'
  exact ⟨front ++ more, (List.append_assoc _ _ _).symm, List.not_mem_append hfront hmore⟩

theorem cons {c : Char} (hc : c ≠ '#') (h : Leaves cs rest) : Leaves (c :: cs) rest := by
  obtain ⟨front, rfl, hfront⟩ := h
  exact ⟨c :: front, rfl, List.not_mem_cons_of_ne_of_not_mem hc.symm hfront⟩

theorem behind {c : Char} (hc : c ≠ '#') (cs : List Char) : Leaves (c :: cs) cs := (refl cs).cons hc

theorem behind_slash {c : Char} (hc : isSlash c = true) (cs : List Char) : Leaves (c :: cs) cs := by
  refine behind ?_ cs
  rintro rfl
  cases hc

theorem slashes (cs : List Char) : Leaves ('/' :: '/' :: cs) cs := (behind_slash rfl _).trans (behind_slash rfl cs)

/-- What is left of a text once the characters that pass a test have been read; a hash does not pass. -/
theorem dropWhile {p : Char → Bool} (hp : p '#' = false) (cs : List Char) : Leaves cs (cs.dropWhile p) := by
  refine ⟨cs.takeWhile p, List.takeWhile_append_dropWhile.symm, fun hmem => ?_⟩
  have hpassed := List.mem_takeWhile_imp hmem
  rw [hp] at hpassed
  cases hpassed

theorem fragmentIn?_eq (h : Leaves cs rest) : fragmentIn? cs = fragmentIn? rest := by
  obtain ⟨front, rfl, hfront⟩ := h
  have hdrop : (front ++ rest).dropWhile (· ≠ '#') = rest.dropWhile (· ≠ '#') := by
    refine List.dropWhile_append_of_pos fun c hc => decide_eq_true ?_
    rintro rfl
    exact hfront hc
  unfold fragmentIn?
  rw [hdrop]

end Leaves

/-- What is left is the query and the fragment. -/
structure LeavesTail (cs rest : List Char) : Prop where
  leaves : Leaves cs rest
  head : ∀ c, rest.head? = some c → c = '?' ∨ c = '#'

theorem Leaves.tail (h : Leaves cs rest) (h' : LeavesTail rest after) : LeavesTail cs after :=
  ⟨h.trans h'.leaves, h'.head⟩

theorem readTail_fragment (h : ∀ c, cs.head? = some c → c = '?' ∨ c = '#') :
    (readTail scheme cs).2 = fragmentIn? cs := by
  cases cs with
  | nil => rfl
  | cons c rest => rcases h c rfl with rfl | rfl <;> rfl

theorem withTail_fragment {authority : Option Authority} {path : UriPath} (h : LeavesTail cs rest) :
    (withTail scheme authority path rest).fragment = fragmentIn? cs :=
  (readTail_fragment h.head).trans h.leaves.fragmentIn?_eq.symm

/-! ## Paths -/

theorem readPath_leaves (segments : List (List Char)) (current cs : List Char) :
    LeavesTail cs (readPath scheme segments current cs).2 := by
  induction cs generalizing segments current with
  | nil => exact ⟨.refl [], nofun⟩
  | cons c rest ih =>
    rw [readPath]
    split
    · next hend => exact ⟨.refl _, fun d hd => Option.some.inj hd ▸ hend⟩
    · next hend =>
      have hc : Leaves (c :: rest) rest := .behind (fun h => hend (.inr h)) rest
      split
      · exact hc.tail (ih _ _)
      · exact hc.tail (ih _ _)

theorem continuePath_leaves (segments : List (List Char)) (cs : List Char) :
    LeavesTail cs (continuePath scheme segments cs).2 :=
  readPath_leaves segments [] cs

theorem ne_hash_of_dividesPath {c : Char} (h : dividesPath scheme c = true) : c ≠ '#' := by
  rintro rfl
  cases h

theorem readPathStart_leaves (scheme cs : List Char) : LeavesTail cs (readPathStart scheme cs).2 := by
  unfold readPathStart
  cases cs with
  | nil =>
    dsimp only
    split
    · exact ⟨.refl [], nofun⟩
    · exact ⟨.refl [], nofun⟩
  | cons c rest =>
    dsimp only
    split
    · next hc => exact (Leaves.behind (ne_hash_of_dividesPath hc) rest).tail (continuePath_leaves [] rest)
    · split
      · next hend =>
        have hmark := (Bool.and_eq_true_iff.mp hend).2
        exact ⟨.refl _, fun d hd => Option.some.inj hd ▸ by simpa using hmark⟩
      · exact continuePath_leaves [] _

/-! ## Authorities -/

/-- A text that is cut is what is before the mark, the mark and what is behind it. -/
theorem eq_of_cutAtLast? {mark : Char} {before behind : List Char}
    (h : cutAtLast? mark cs = some (before, behind)) : ∃ c, cs = before ++ c :: behind := by
  unfold cutAtLast? at h
  split at h
  · cases h
  · next c rest hdrop =>
    obtain ⟨rfl, rfl⟩ := Prod.mk.inj (Option.some.inj h)
    refine ⟨c, List.reverse_injective ?_⟩
    rw [List.reverse_append, List.reverse_cons, List.reverse_reverse, List.reverse_reverse, List.append_assoc,
      List.singleton_append, ← hdrop]
    exact List.takeWhile_append_dropWhile.symm

theorem readUserinfo_leaves {username password : List Char}
    (h : readUserinfo scheme cs = .ok (username, password, rest)) : Leaves cs rest := by
  have hhash : (!endsAuthority scheme '#') = false := by simp [endsAuthority]
  unfold readUserinfo at h
  dsimp only at h
  split at h
  · obtain ⟨-, hrest⟩ := Prod.mk.inj (Except.ok.inj h)
    obtain ⟨-, rfl⟩ := Prod.mk.inj hrest
    exact .refl cs
  · next userinfo host hcut =>
    split at h
    · cases h
    · obtain ⟨-, hrest⟩ := Prod.mk.inj (Except.ok.inj h)
      obtain ⟨-, rfl⟩ := Prod.mk.inj hrest
      obtain ⟨mark, hauthority⟩ := eq_of_cutAtLast? hcut
      have hall : cs = userinfo ++ [mark] ++ (host ++ cs.dropWhile fun c => !endsAuthority scheme c) := by
        rw [List.append_assoc, List.singleton_append, ← List.cons_append, ← List.append_assoc, ← hauthority]
        exact List.takeWhile_append_dropWhile.symm
      refine ⟨userinfo ++ [mark], hall, fun hmem => ?_⟩
      have hin : '#' ∈ cs.takeWhile fun c => !endsAuthority scheme c := by
        rw [hauthority, ← List.singleton_append, ← List.append_assoc]
        exact List.mem_append_left _ hmem
      have hpassed := List.mem_takeWhile_imp hin
      rw [hhash] at hpassed
      cases hpassed

theorem not_mem_take_hostLength (inBrackets : Bool) (cs : List Char) :
    '#' ∉ cs.take (hostLength scheme inBrackets cs) := by
  induction cs generalizing inBrackets with
  | nil => exact List.not_mem_nil
  | cons c rest ih =>
    rw [hostLength]
    split
    · exact List.not_mem_nil
    · next hc =>
      rw [List.take_succ_cons]
      refine List.not_mem_cons_of_ne_of_not_mem ?_ (ih _)
      rintro rfl
      exact hc (by simp [endsAuthority])

theorem host_leaves (cs : List Char) : Leaves cs (cs.drop (cs.take (hostLength scheme false cs)).length) :=
  ⟨_, (List.prefix_iff_eq_append.mp (List.take_prefix _ _)).symm, not_mem_take_hostLength false cs⟩

theorem readPort_leaves {port : Option Nat} (h : readPort scheme cs = .ok (port, rest)) : Leaves cs rest := by
  unfold readPort at h
  dsimp only at h
  rcases ite_eq_iff.mp h with ⟨-, h⟩ | ⟨-, h⟩
  · cases h
  · obtain ⟨-, rfl⟩ := Prod.mk.inj (Except.ok.inj h)
    exact .dropWhile rfl cs

/-- Behind two slashes, the authority and the path are read and then the rest. -/
theorem afterSlashes_fragment {u : Uri} (h : afterSlashes scheme cs = .ok u) : u.fragment = fragmentIn? cs := by
  have hostOf : ∀ {text : List Char} {f : List Char → Except UriError Uri},
      (if isSpecial scheme then
        if text.isEmpty then .error .emptyHost >>= f else Host.special text >>= f
      else Host.other text >>= f) = .ok u → ∃ host, f host = .ok u := by
    intro text f h
    split at h
    · split at h
      · cases h
      · obtain ⟨host, -, h⟩ := bind_eq_ok.mp h
        exact ⟨host, h⟩
    · obtain ⟨host, -, h⟩ := bind_eq_ok.mp h
      exact ⟨host, h⟩
  unfold afterSlashes at h
  obtain ⟨⟨username, password, rest⟩, huser, h⟩ := bind_eq_ok.mp h
  dsimp only at h
  obtain ⟨host, h⟩ := hostOf h
  have hbehind : Leaves cs (rest.drop (rest.take (hostLength scheme false rest)).length) :=
    (readUserinfo_leaves huser).trans (host_leaves rest)
  split at h
  · cases h
  · split at h
    · next digits hcolon =>
      obtain ⟨⟨port, more⟩, hport, h⟩ := bind_eq_ok.mp h
      dsimp only at h
      split at h
      · cases h
      · obtain rfl := Except.ok.inj h
        rw [hcolon] at hbehind
        have hmore : Leaves (':' :: digits) more := (readPort_leaves hport).cons (by decide)
        exact withTail_fragment ((hbehind.trans hmore).tail (readPathStart_leaves _ _))
    · obtain ⟨⟨port, more⟩, hport, h⟩ := bind_eq_ok.mp h
      obtain ⟨-, rfl⟩ := Prod.mk.inj (Except.ok.inj hport)
      dsimp only at h
      split at h
      · cases h
      · obtain rfl := Except.ok.inj h
        exact withTail_fragment (hbehind.tail (readPathStart_leaves _ _))

/-! ## File URIs -/

theorem afterFileSlashes_fragment {u : Uri} (h : afterFileSlashes cs = .ok u) : u.fragment = fragmentIn? cs := by
  have hhost : Leaves cs (cs.dropWhile fun c => !endsAuthority fileScheme c) := .dropWhile rfl cs
  unfold afterFileSlashes at h
  dsimp only at h
  split at h
  · obtain rfl := Except.ok.inj h
    exact withTail_fragment (continuePath_leaves _ _)
  · split at h
    · obtain rfl := Except.ok.inj h
      exact withTail_fragment (hhost.tail (readPathStart_leaves _ _))
    · obtain ⟨host, -, h⟩ := bind_eq_ok.mp h
      obtain rfl := Except.ok.inj h
      exact withTail_fragment (hhost.tail (readPathStart_leaves _ _))

namespace readFile

variable {base : Option Uri} {u : Uri}

theorem rooted_fragment (h : readFile.rooted base cs = .ok u) : u.fragment = fragmentIn? cs := by
  unfold readFile.rooted at h
  dsimp only at h
  split at h
  · obtain rfl := Except.ok.inj h
    exact withTail_fragment (continuePath_leaves _ _)
  · obtain rfl := Except.ok.inj h
    exact withTail_fragment (continuePath_leaves _ _)

theorem relative_fragment (h : readFile.relative base cs = .ok u) : u.fragment = fragmentIn? cs := by
  unfold readFile.relative at h
  cases base with
  | none =>
    obtain rfl := Except.ok.inj h
    exact withTail_fragment (continuePath_leaves _ _)
  | some b =>
    dsimp only at h
    split at h
    · obtain rfl := Except.ok.inj h
      rfl
    · obtain rfl := Except.ok.inj h
      rfl
    · obtain rfl := Except.ok.inj h
      rfl
    · split at h
      · obtain rfl := Except.ok.inj h
        exact withTail_fragment (continuePath_leaves _ _)
      · obtain rfl := Except.ok.inj h
        exact withTail_fragment (continuePath_leaves _ _)

end readFile

theorem readFile_fragment {base : Option Uri} {u : Uri} (h : readFile base cs = .ok u) :
    u.fragment = fragmentIn? cs := by
  unfold readFile at h
  split at h
  · next a b rest =>
    split at h
    · next hslashes =>
      obtain ⟨ha, hb⟩ := Bool.and_eq_true_iff.mp hslashes
      rw [((Leaves.behind_slash ha _).trans (Leaves.behind_slash hb rest)).fragmentIn?_eq]
      exact afterFileSlashes_fragment h
    · split at h
      · next ha =>
        rw [(Leaves.behind_slash ha _).fragmentIn?_eq]
        exact readFile.rooted_fragment h
      · exact readFile.relative_fragment h
  · split at h
    · next ha =>
      rw [(Leaves.behind_slash ha _).fragmentIn?_eq]
      exact readFile.rooted_fragment h
    · exact readFile.relative_fragment h
  · exact readFile.relative_fragment h

/-! ## References -/

theorem readRelative_fragment {base u : Uri} (h : readRelative base cs = .ok u) :
    u.fragment = fragmentIn? cs := by
  have hslashes : Leaves cs (cs.dropWhile isSlash) := .dropWhile rfl cs
  unfold readRelative at h
  dsimp only at h
  split at h
  · obtain rfl := Except.ok.inj h
    rfl
  · obtain rfl := Except.ok.inj h
    rfl
  · obtain rfl := Except.ok.inj h
    rfl
  · next c rest _ _ =>
    split at h
    · next hc =>
      split at h
      · split at h
        · next more hcs =>
          rw [hcs, (Leaves.slashes more).fragmentIn?_eq]
          exact afterSlashes_fragment h
        · rw [hslashes.fragmentIn?_eq]
          exact afterSlashes_fragment h
      · obtain rfl := Except.ok.inj h
        exact withTail_fragment ((Leaves.behind_slash hc rest).tail (continuePath_leaves _ _))
    · obtain rfl := Except.ok.inj h
      exact withTail_fragment (continuePath_leaves _ _)

theorem readWithScheme_fragment {base : Option Uri} {u : Uri} (h : readWithScheme base scheme cs = .ok u) :
    u.fragment = fragmentIn? cs := by
  have hslashes : Leaves cs (cs.dropWhile isSlash) := .dropWhile rfl cs
  unfold readWithScheme at h
  split at h
  · exact readFile_fragment h
  · split at h
    · dsimp only at h
      split at h
      · split at h
        · exact readRelative_fragment h
        · rw [hslashes.fragmentIn?_eq]
          exact afterSlashes_fragment h
      · rw [hslashes.fragmentIn?_eq]
        exact afterSlashes_fragment h
    · split at h
      · next more =>
        rw [(Leaves.slashes more).fragmentIn?_eq]
        exact afterSlashes_fragment h
      · next more _ =>
        obtain rfl := Except.ok.inj h
        exact withTail_fragment ((Leaves.behind_slash rfl more).tail (continuePath_leaves _ _))
      · obtain rfl := Except.ok.inj h
        refine withTail_fragment ⟨.dropWhile rfl _, fun c hc => ?_⟩
        have hstop := List.head?_dropWhile_not (fun c => c != '?' && c != '#') cs
        rw [hc] at hstop
        simpa [or_iff_not_imp_left] using hstop

theorem readScheme?_leaves (h : readScheme? cs = some (scheme, rest)) : Leaves cs rest := by
  unfold readScheme? at h
  dsimp only at h
  split at h
  · cases h
  · next c more =>
    split at h
    · cases h
    · split at h
      · next tail hcolon =>
        obtain ⟨-, rfl⟩ := Prod.mk.inj (Option.some.inj h)
        have hfront := Leaves.dropWhile (p := fun c => c.isAlphanum || c == '+' || c == '-' || c == '.')
          (by decide) (c :: more)
        rw [hcolon] at hfront
        exact hfront.trans (.behind (by decide) _)
      · cases h

/-- **The fragment of what is read is the one in the text**, whatever the base. -/
theorem read_fragment {base : Option Uri} {text : String} {u : Uri} (h : read base text = .ok u) :
    u.fragment = fragmentIn? (significant text) := by
  unfold read at h
  dsimp only at h
  split at h
  · next scheme rest hscheme =>
    rw [(readScheme?_leaves hscheme).fragmentIn?_eq]
    exact readWithScheme_fragment h
  · split at h
    · cases h
    · split at h
      · next hhash =>
        obtain rfl := Except.ok.inj h
        refine readTail_fragment fun c hc => .inr ?_
        rw [hc] at hhash
        simpa using hhash
      · split at h
        · cases h
        · split at h
          · exact readFile_fragment h
          · exact readRelative_fragment h

end Uri

end JsonSchema
