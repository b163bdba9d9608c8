import JsonSchema.Proofs.Json.Pointers
import JsonSchema.Uri.Parser
import Mathlib.Data.Bool.AllAny

/-!
# Texts tell URIs apart

The parts of a URI stand one behind the other in its text, and none holds a character by which the next
begins: no colon in a scheme, no slash in the authority, no question mark or hash in the path.  What is read
has this form (`Uri.Normal`), and **two URIs of this form have the same text only if they are the same**
(`Uri.Normal.text_injective`).

Each step takes two equal texts apart at the same place (`Avoids.append_cancel`).  Two places need more than a
character: a host in brackets may hold colons, and without an authority a path of two slashes has a dot
segment in front that it does not have by itself.
-/

set_option autoImplicit false

namespace JsonSchema

/-! ## Taking texts apart -/

/-- The text holds none of the characters. -/
def Avoids (stops cs : List Char) : Prop := ∀ c ∈ cs, c ∉ stops

-- decided along the text, since there are finitely many characters and all could be searched instead
instance (stops cs : List Char) : Decidable (Avoids stops cs) := List.decidableBAll _ cs

/-- The text is empty or begins with one of the characters. -/
def BeginsWith (stops cs : List Char) : Prop := ∀ c, cs.head? = some c → c ∈ stops

namespace Avoids

variable {stops xs ys : List Char}

theorem nil : Avoids stops [] := fun _ hc => absurd hc List.not_mem_nil

theorem cons {c : Char} (hc : c ∉ stops) (h : Avoids stops xs) : Avoids stops (c :: xs) :=
  List.forall_mem_cons.mpr ⟨hc, h⟩

theorem append (hx : Avoids stops xs) (hy : Avoids stops ys) : Avoids stops (xs ++ ys) :=
  List.forall_mem_append.mpr ⟨hx, hy⟩

theorem of_subset {fewer : List Char} (h : Avoids stops xs) (hsub : fewer ⊆ stops) : Avoids fewer xs :=
  fun c hc hmem => h c hc (hsub hmem)

/-- **Two equal texts whose first parts end at the same characters have the same parts.** -/
theorem append_cancel {r s : List Char} (hx : Avoids stops xs) (hy : Avoids stops ys) (hr : BeginsWith stops r)
    (hs : BeginsWith stops s) (h : xs ++ r = ys ++ s) : xs = ys ∧ r = s := by
  induction xs generalizing ys with
  | nil =>
    cases ys with
    | nil => exact ⟨rfl, h⟩
    | cons y more =>
      subst h
      exact absurd (hr y rfl) (hy y List.mem_cons_self)
  | cons x rest ih =>
    cases ys with
    | nil =>
      subst h
      exact absurd (hs x rfl) (hx x List.mem_cons_self)
    | cons y more =>
      obtain ⟨rfl, htail⟩ := List.cons.inj h
      obtain ⟨rfl, hrest⟩ := ih (fun c hc => hx c (.tail _ hc)) (fun c hc => hy c (.tail _ hc)) htail
      exact ⟨rfl, hrest⟩

end Avoids

namespace BeginsWith

variable {stops : List Char}

theorem nil : BeginsWith stops [] := nofun

theorem cons {c : Char} (hc : c ∈ stops) (cs : List Char) : BeginsWith stops (c :: cs) := by
  intro d hd
  obtain rfl := Option.some.inj hd
  exact hc

end BeginsWith

/-! ## Authorities -/

/-- A host holds no character that ends it; colons only in brackets. -/
def Host.Normal (host : List Char) : Prop :=
  Avoids ['/', '?', '#', '@'] host ∧
    ((∃ inner, host = '[' :: inner ++ [']'] ∧ Avoids [']'] inner) ∨ Avoids [':', '['] host)

namespace Authority

structure Normal (a : Authority) : Prop where
  username : Avoids ['/', '?', '#', '@', ':'] a.username
  password : Avoids ['/', '?', '#', '@', ':'] a.password
  host : Host.Normal a.host

/-- The username and the password with a colon between them. -/
def userinfo (a : Authority) : List Char :=
  a.username ++ if a.password.isEmpty then [] else ':' :: a.password

/-- The port behind its colon. -/
def portText (a : Authority) : List Char :=
  match a.port with
  | some p => ':' :: Nat.toDigits 10 p
  | none => []

theorem text_eq (a : Authority) :
    a.text = (if a.userinfo.isEmpty then [] else a.userinfo ++ ['@']) ++ (a.host ++ a.portText) :=
  List.append_assoc _ _ _

variable {a b : Authority}

/-- A port is written in digits, behind a colon. -/
theorem portText_avoids (a : Authority) : Avoids ['/', '?', '#', '@'] a.portText := by
  unfold portText
  cases a.port with
  | none => exact .nil
  | some p =>
    refine .cons (by decide) fun c hc hstop => ?_
    have hdigit : c.isDigit := Nat.isDigit_of_mem_toDigits (by decide) (by decide) hc
    have hnone : ∀ d ∈ ['/', '?', '#', '@'], d.isDigit = false := List.all_iff_forall_prop.mp (by decide)
    rw [hnone c hstop] at hdigit
    cases hdigit

theorem portText_beginsWith (a : Authority) : BeginsWith [':'] a.portText := by
  unfold portText
  cases a.port with
  | none => exact .nil
  | some p => exact .cons List.mem_cons_self _

theorem portText_injective (h : a.portText = b.portText) : a.port = b.port := by
  unfold portText at h
  cases hp : a.port with
  | none =>
    cases hq : b.port with
    | none => rfl
    | some q =>
      rw [hp, hq] at h
      cases h
  | some p =>
    cases hq : b.port with
    | none =>
      rw [hp, hq] at h
      cases h
    | some q =>
      rw [hp, hq] at h
      have hdigits : Nat.toDigits 10 p = Nat.toDigits 10 q := List.tail_eq_of_cons_eq h
      rw [← Pointer.natOfDigits_toDigits p, hdigits, Pointer.natOfDigits_toDigits]

namespace Normal

theorem userinfo_avoids (h : a.Normal) : Avoids ['/', '?', '#', '@'] a.userinfo := by
  have hsub : ['/', '?', '#', '@'] ⊆ ['/', '?', '#', '@', ':'] := by decide
  unfold userinfo
  refine (h.username.of_subset hsub).append ?_
  split
  · exact .nil
  · exact .cons (by decide) (h.password.of_subset hsub)

/-- An authority has none of the characters behind it. -/
theorem text_avoids (h : a.Normal) : Avoids ['/', '?', '#'] a.text := by
  have hsub : ['/', '?', '#'] ⊆ ['/', '?', '#', '@'] := by decide
  rw [text_eq]
  refine Avoids.append ?_ ((h.host.1.of_subset hsub).append (a.portText_avoids.of_subset hsub))
  split
  · exact .nil
  · exact (h.userinfo_avoids.of_subset hsub).append (.cons (by decide) .nil)

/-- The first colon of the userinfo stands in front of the password. -/
theorem userinfo_injective (ha : a.Normal) (hb : b.Normal) (h : a.userinfo = b.userinfo) :
    a.username = b.username ∧ a.password = b.password := by
  have hsub : [':'] ⊆ ['/', '?', '#', '@', ':'] := by decide
  have hbegins : ∀ password : List Char,
      BeginsWith [':'] (if password.isEmpty then [] else ':' :: password) := by
    intro password
    split
    · exact .nil
    · exact .cons List.mem_cons_self _
  obtain ⟨husername, hpassword⟩ := Avoids.append_cancel (ha.username.of_subset hsub) (hb.username.of_subset hsub)
    (hbegins _) (hbegins _) h
  refine ⟨husername, ?_⟩
  cases hp : a.password with
  | nil =>
    cases hq : b.password with
    | nil => rfl
    | cons d ds =>
      rw [hp, hq] at hpassword
      cases hpassword
  | cons c cs =>
    cases hq : b.password with
    | nil =>
      rw [hp, hq] at hpassword
      cases hpassword
    | cons d ds =>
      rw [hp, hq] at hpassword
      exact List.tail_eq_of_cons_eq hpassword

/-- A host in brackets ends at the closing one, and any other at the first colon. -/
theorem host_injective (ha : Host.Normal a.host) (hb : Host.Normal b.host)
    (h : a.host ++ a.portText = b.host ++ b.portText) : a.host = b.host ∧ a.portText = b.portText := by
  -- a host in brackets and another do not even begin alike
  have hmixed : ∀ {host : List Char} {inner rest : List Char} {c : Authority}, Avoids [':', '['] host →
      host ++ c.portText ≠ '[' :: inner ++ [']'] ++ rest := by
    intro host inner rest c hhost heq
    cases host with
    | nil =>
      have hcolon := c.portText_beginsWith '[' (by rw [← List.nil_append c.portText, heq]; rfl)
      exact absurd hcolon (by decide)
    | cons d ds =>
      obtain rfl := (List.cons.inj heq).1
      exact absurd (List.mem_cons_of_mem _ List.mem_cons_self) (hhost '[' List.mem_cons_self)
  have hcolon : [':'] ⊆ [':', '['] := by decide
  rcases ha.2 with ⟨inner, hinner, havoids⟩ | havoids
  · rcases hb.2 with ⟨inner', hinner', havoids'⟩ | havoids'
    · rw [hinner, hinner', List.append_assoc, List.append_assoc] at h
      have hbracket : '[' ∉ [']'] := by decide
      obtain ⟨hsame, hrest⟩ := Avoids.append_cancel (havoids.cons hbracket) (havoids'.cons hbracket)
        (.cons List.mem_cons_self _) (.cons List.mem_cons_self _) h
      exact ⟨by rw [hinner, hinner', hsame], List.tail_eq_of_cons_eq hrest⟩
    · rw [hinner] at h
      exact absurd h.symm (hmixed havoids')
  · rcases hb.2 with ⟨inner', hinner', havoids'⟩ | havoids'
    · rw [hinner'] at h
      exact absurd h (hmixed havoids)
    · exact Avoids.append_cancel (havoids.of_subset hcolon) (havoids'.of_subset hcolon) a.portText_beginsWith
        b.portText_beginsWith h

/-- **Authorities are told apart by their texts.** -/
theorem text_injective (ha : a.Normal) (hb : b.Normal) (h : a.text = b.text) : a = b := by
  have hbehind : ∀ {c : Authority}, c.Normal → Avoids ['@'] (c.host ++ c.portText) := by
    intro c hc
    have hsub : ['@'] ⊆ ['/', '?', '#', '@'] := by decide
    exact (hc.host.1.of_subset hsub).append (c.portText_avoids.of_subset hsub)
  -- what stands behind the userinfo has no at sign
  have hmixed : ∀ {c : Authority} {xs ys : List Char}, c.Normal → c.host ++ c.portText ≠ xs ++ ['@'] ++ ys := by
    intro c xs ys hc heq
    have hat : '@' ∈ c.host ++ c.portText := by
      rw [heq]
      simp
    exact hbehind hc _ hat List.mem_cons_self
  have hsub : ['@'] ⊆ ['/', '?', '#', '@'] := by decide
  have hparts : a.userinfo = b.userinfo ∧ a.host ++ a.portText = b.host ++ b.portText := by
    rw [text_eq, text_eq] at h
    cases hu : a.userinfo with
    | nil =>
      cases hv : b.userinfo with
      | nil =>
        rw [hu, hv] at h
        exact ⟨rfl, h⟩
      | cons d ds =>
        rw [hu, hv] at h
        exact absurd h (hmixed ha)
    | cons c cs =>
      cases hv : b.userinfo with
      | nil =>
        rw [hu, hv] at h
        exact absurd h.symm (hmixed hb)
      | cons d ds =>
        rw [hu, hv] at h
        obtain ⟨huser, hrest⟩ := @Avoids.append_cancel ['@'] (c :: cs) (d :: ds) _ _
          (hu ▸ ha.userinfo_avoids.of_subset hsub) (hv ▸ hb.userinfo_avoids.of_subset hsub)
          (.cons List.mem_cons_self _) (.cons List.mem_cons_self _)
          (by simpa only [List.isEmpty_cons, Bool.false_eq_true, if_false, List.append_assoc,
            List.singleton_append] using h)
        exact ⟨huser, List.tail_eq_of_cons_eq hrest⟩
  obtain ⟨husername, hpassword⟩ := userinfo_injective ha hb hparts.1
  obtain ⟨hhost, hport⟩ := host_injective ha.host hb.host hparts.2
  have hsame := portText_injective hport
  cases a
  cases b
  dsimp only at husername hpassword hhost hsame
  rw [husername, hpassword, hhost, hsame]

end Normal

end Authority

/-! ## Paths -/

/-- No segment holds a character that ends it. -/
def NormalSegments (ss : List (List Char)) : Prop := ∀ s ∈ ss, Avoids ['/', '?', '#'] s

namespace NormalSegments

variable {ss ss' : List (List Char)}

theorem text_avoids (h : NormalSegments ss) : Avoids ['?', '#'] (UriPath.segments ss).text := by
  have hsub : ['?', '#'] ⊆ ['/', '?', '#'] := by decide
  intro c hc
  obtain ⟨s, hs, hmem⟩ := List.mem_flatMap.mp hc
  exact Avoids.cons (by decide) ((h s hs).of_subset hsub) c hmem

theorem text_beginsWith (ss : List (List Char)) : BeginsWith ['/'] (UriPath.segments ss).text := by
  cases ss with
  | nil => exact .nil
  | cons s rest => exact .cons List.mem_cons_self _

/-- Each slash begins a segment. -/
theorem text_injective (h : NormalSegments ss) (h' : NormalSegments ss')
    (heq : (UriPath.segments ss).text = (UriPath.segments ss').text) : ss = ss' := by
  have hslash : ['/'] ⊆ ['/', '?', '#'] := by decide
  induction ss generalizing ss' with
  | nil =>
    cases ss' with
    | nil => rfl
    | cons s' rest' => cases heq
  | cons s rest ih =>
    cases ss' with
    | nil => cases heq
    | cons s' rest' =>
      obtain ⟨hs, hrest⟩ := List.forall_mem_cons.mp h
      obtain ⟨hs', hrest'⟩ := List.forall_mem_cons.mp h'
      obtain ⟨rfl, htail⟩ := Avoids.append_cancel (hs.of_subset hslash) (hs'.of_subset hslash)
        (text_beginsWith rest) (text_beginsWith rest') (List.tail_eq_of_cons_eq heq)
      rw [ih hrest hrest' htail]

end NormalSegments

namespace Uri

/-- What stands between the scheme and the query. -/
def place (authority : Option Authority) (path : UriPath) : List Char :=
  match authority with
  | some a => '/' :: '/' :: a.text ++ path.text
  | none => match path, path.text with
    | .segments _, '/' :: '/' :: _ => '/' :: '.' :: path.text
    | _, _ => path.text

/-- The authorities and paths that stand together in a URI.  Without an authority a path has a segment, of
    which the first is no dot; a path without segments does not begin with a slash. -/
inductive NormalPlace : Option Authority → UriPath → Prop where
  | authority {a : Authority} {ss : List (List Char)} :
      a.Normal → NormalSegments ss → NormalPlace (some a) (.segments ss)
  | rooted {s : List Char} {ss : List (List Char)} :
      NormalSegments (s :: ss) → s ≠ ['.'] → NormalPlace none (.segments (s :: ss))
  | rootless {t : List Char} :
      Avoids ['?', '#'] t → t.head? ≠ some '/' → NormalPlace none (.rootless t)

namespace NormalPlace

variable {authority authority' : Option Authority} {path path' : UriPath}

/-- A rooted path is written as it is, or behind a dot segment where it would begin with two slashes. -/
theorem rooted_cases (ss : List (List Char)) :
    (∃ rest, (UriPath.segments ss).text = '/' :: '/' :: rest ∧
      place none (.segments ss) = '/' :: '.' :: '/' :: '/' :: rest) ∨
    (∀ rest, (UriPath.segments ss).text ≠ '/' :: '/' :: rest) ∧
      place none (.segments ss) = (UriPath.segments ss).text := by
  unfold place
  dsimp only
  split
  · next rest _ heq => exact .inl ⟨_, heq, by rw [heq]⟩
  · next hno => exact .inr ⟨fun rest heq => hno ss rest rfl heq, rfl⟩

theorem avoids (h : NormalPlace authority path) : Avoids ['?', '#'] (place authority path) := by
  cases h with
  | authority ha hss =>
    have hsub : ['?', '#'] ⊆ ['/', '?', '#'] := by decide
    exact .cons (by decide) (.cons (by decide) ((ha.text_avoids.of_subset hsub).append hss.text_avoids))
  | rooted hss _ =>
    rcases rooted_cases _ with ⟨rest, htext, hplace⟩ | ⟨-, hplace⟩
    · rw [hplace, ← htext]
      exact .cons (by decide) (.cons (by decide) hss.text_avoids)
    · rw [hplace]
      exact hss.text_avoids
  | rootless ht _ => exact ht

/-- A rooted path begins with one slash only. -/
theorem rooted_begins (s : List Char) (ss : List (List Char)) :
    ∃ cs, place none (.segments (s :: ss)) = '/' :: cs ∧ cs.head? ≠ some '/' := by
  rcases rooted_cases (s :: ss) with ⟨rest, -, hplace⟩ | ⟨hone, hplace⟩
  · exact ⟨_, hplace, fun hhead => absurd (Option.some.inj hhead) (by decide)⟩
  · refine ⟨_, hplace, fun hhead => ?_⟩
    obtain ⟨rest, hrest⟩ := List.head?_eq_some_iff.mp hhead
    exact hone rest (congrArg ('/' :: ·) hrest)

/-- A dot segment in front is not a segment of the path. -/
theorem rooted_injective {s s' : List Char} {ss ss' : List (List Char)} (h : NormalSegments (s :: ss))
    (h' : NormalSegments (s' :: ss')) (hs : s ≠ ['.']) (hs' : s' ≠ ['.'])
    (heq : place none (.segments (s :: ss)) = place none (.segments (s' :: ss'))) : s :: ss = s' :: ss' := by
  have hdotted : ∀ {s : List Char} {ss : List (List Char)} {rest : List Char}, NormalSegments (s :: ss) →
      s ≠ ['.'] → (UriPath.segments (s :: ss)).text ≠ '/' :: '.' :: '/' :: '/' :: rest := by
    intro s ss rest hss hs htext
    have hslash : ['/'] ⊆ ['/', '?', '#'] := by decide
    have hdot : Avoids ['/'] ['.'] := .cons (by decide) .nil
    exact hs (Avoids.append_cancel ((hss s List.mem_cons_self).of_subset hslash) hdot
      (NormalSegments.text_beginsWith ss) (.cons List.mem_cons_self _) (List.tail_eq_of_cons_eq htext)).1
  rcases rooted_cases (s :: ss) with ⟨rest, htext, hplace⟩ | ⟨-, hplace⟩
  · rcases rooted_cases (s' :: ss') with ⟨rest', htext', hplace'⟩ | ⟨-, hplace'⟩
    · refine h.text_injective h' ?_
      rw [hplace, hplace'] at heq
      rw [htext, htext']
      exact List.tail_eq_of_cons_eq (List.tail_eq_of_cons_eq heq)
    · rw [hplace, hplace'] at heq
      exact absurd heq.symm (hdotted h' hs')
  · rcases rooted_cases (s' :: ss') with ⟨rest', htext', hplace'⟩ | ⟨-, hplace'⟩
    · rw [hplace, hplace'] at heq
      exact absurd heq (hdotted h hs)
    · rw [hplace, hplace'] at heq
      exact h.text_injective h' heq

/-- **What stands between the scheme and the query tells the authority and the path.**  How many slashes it
    begins with tells the kind of path. -/
theorem injective (h : NormalPlace authority path) (h' : NormalPlace authority' path')
    (heq : place authority path = place authority' path') : authority = authority' ∧ path = path' := by
  have htwo : ∀ {a : Authority} {path : UriPath} {s : List Char} {ss : List (List Char)},
      place (some a) path ≠ place none (.segments (s :: ss)) := by
    intro a path s ss heq
    obtain ⟨cs, hcs, hone⟩ := rooted_begins s ss
    rw [hcs] at heq
    exact hone (by rw [← List.tail_eq_of_cons_eq heq]; rfl)
  have hnone : ∀ {authority : Option Authority} {path : UriPath} {t : List Char}, t.head? ≠ some '/' →
      (place authority path).head? = some '/' → place authority path ≠ place none (.rootless t) := by
    intro authority path t ht hslash heq
    rw [heq] at hslash
    exact ht hslash
  cases h with
  | @authority a ss ha hss =>
    cases h' with
    | authority ha' hss' =>
      obtain ⟨htext, hpath⟩ := Avoids.append_cancel (ha.text_avoids.of_subset (by decide : ['/'] ⊆ _))
        (ha'.text_avoids.of_subset (by decide)) (NormalSegments.text_beginsWith _)
        (NormalSegments.text_beginsWith _) (List.tail_eq_of_cons_eq (List.tail_eq_of_cons_eq heq))
      exact ⟨congrArg some (ha.text_injective ha' htext), congrArg UriPath.segments (hss.text_injective hss' hpath)⟩
    | rooted _ _ => exact absurd heq htwo
    | rootless _ ht => exact absurd heq (hnone ht rfl)
  | @rooted s ss hss hs =>
    have hslash : (place none (.segments (s :: ss))).head? = some '/' := by
      obtain ⟨cs, hcs, -⟩ := rooted_begins s ss
      rw [hcs]
      rfl
    cases h' with
    | authority _ _ => exact absurd heq.symm htwo
    | rooted hss' hs' => exact ⟨rfl, congrArg UriPath.segments (rooted_injective hss hss' hs hs' heq)⟩
    | rootless _ ht => exact absurd heq (hnone ht hslash)
  | rootless _ ht =>
    cases h' with
    | authority _ _ => exact absurd heq.symm (hnone ht rfl)
    | @rooted s ss _ _ =>
      obtain ⟨cs, hcs, -⟩ := rooted_begins s ss
      exact absurd heq.symm (hnone ht (by rw [hcs]; rfl))
    | rootless _ _ => exact ⟨rfl, congrArg UriPath.rootless heq⟩

end NormalPlace

/-! ## URIs -/

/-- The form of the URIs that are read. -/
structure Normal (u : Uri) : Prop where
  scheme : Avoids [':'] u.scheme
  place : NormalPlace u.authority u.path
  /-- A file URI has an authority, if only an empty one. -/
  file : isFile u.scheme = true → u.authority.isSome
  query : ∀ q, u.query = some q → Avoids ['#'] q

/-- The query behind its question mark. -/
def queryText (u : Uri) : List Char :=
  match u.query with
  | some q => '?' :: q
  | none => []

/-- The fragment behind its hash. -/
def fragmentText (u : Uri) : List Char :=
  match u.fragment with
  | some f => '#' :: f
  | none => []

theorem text_toList (u : Uri) :
    u.text.toList = u.scheme ++ ':' :: (Uri.place u.authority u.path ++ (u.queryText ++ u.fragmentText)) := by
  obtain ⟨scheme, authority, path, query, fragment⟩ := u
  have htext : (Uri.mk scheme authority path query fragment).text.toList =
      scheme ++ ':' :: Uri.place authority path ++ queryText ⟨scheme, authority, path, query, fragment⟩ ++
        fragmentText ⟨scheme, authority, path, query, fragment⟩ := by
    unfold text textBeforeFragment
    rw [String.toList_ofList]
    cases authority <;> cases query <;> cases fragment <;> rfl
  rw [htext, List.append_assoc, List.append_assoc]
  rfl

theorem fragmentText_beginsWith (u : Uri) : BeginsWith ['#'] u.fragmentText := by
  unfold fragmentText
  cases u.fragment with
  | none => exact .nil
  | some f => exact .cons List.mem_cons_self _

theorem fragmentText_injective {u v : Uri} (h : u.fragmentText = v.fragmentText) : u.fragment = v.fragment := by
  unfold fragmentText at h
  cases hf : u.fragment with
  | none =>
    cases hg : v.fragment with
    | none => rfl
    | some g =>
      rw [hf, hg] at h
      cases h
  | some f =>
    cases hg : v.fragment with
    | none =>
      rw [hf, hg] at h
      cases h
    | some g =>
      rw [hf, hg] at h
      exact congrArg some (List.tail_eq_of_cons_eq h)

namespace Normal

variable {u v : Uri}

/-- The first question mark begins the query, unless a hash comes before. -/
theorem tail_injective (hu : u.Normal) (hv : v.Normal)
    (h : u.queryText ++ u.fragmentText = v.queryText ++ v.fragmentText) :
    u.query = v.query ∧ u.fragment = v.fragment := by
  -- a fragment does not begin with a question mark
  have hmixed : ∀ {w : Uri} {q rest : List Char}, w.fragmentText ≠ '?' :: q ++ rest := by
    intro w q rest heq
    have hhash := w.fragmentText_beginsWith '?' (by rw [heq]; rfl)
    exact absurd hhash (by decide)
  unfold queryText at h
  cases hq : u.query with
  | none =>
    cases hr : v.query with
    | none =>
      rw [hq, hr] at h
      exact ⟨rfl, fragmentText_injective h⟩
    | some r =>
      rw [hq, hr] at h
      exact absurd h hmixed
  | some q =>
    cases hr : v.query with
    | none =>
      rw [hq, hr] at h
      exact absurd h.symm hmixed
    | some r =>
      rw [hq, hr] at h
      obtain ⟨rfl, hfragment⟩ := Avoids.append_cancel (hu.query q hq) (hv.query r hr) u.fragmentText_beginsWith
        v.fragmentText_beginsWith (List.tail_eq_of_cons_eq h)
      exact ⟨rfl, fragmentText_injective hfragment⟩

/-- **URIs are told apart by their texts.** -/
theorem text_injective (hu : u.Normal) (hv : v.Normal) (h : u.text = v.text) : u = v := by
  have hbehind : ∀ w : Uri, BeginsWith ['?', '#'] (w.queryText ++ w.fragmentText) := by
    intro w
    unfold queryText
    cases w.query with
    | none => exact fun c hc => List.mem_cons_of_mem _ (w.fragmentText_beginsWith c hc)
    | some q => exact .cons List.mem_cons_self _
  have htexts := congrArg String.toList h
  rw [text_toList, text_toList] at htexts
  obtain ⟨hscheme, hrest⟩ := Avoids.append_cancel hu.scheme hv.scheme (.cons List.mem_cons_self _)
    (.cons List.mem_cons_self _) htexts
  obtain ⟨hplace, htail⟩ := Avoids.append_cancel hu.place.avoids hv.place.avoids (hbehind u) (hbehind v)
    (List.tail_eq_of_cons_eq hrest)
  obtain ⟨hauthority, hpath⟩ := hu.place.injective hv.place hplace
  obtain ⟨hquery, hfragment⟩ := tail_injective hu hv htail
  cases u
  cases v
  dsimp only at hscheme hauthority hpath hquery hfragment
  rw [hscheme, hauthority, hpath, hquery, hfragment]

/-- The fragment is not part of the form. -/
theorem withFragment (hu : u.Normal) (fragment : Option (List Char)) : { u with fragment : Uri }.Normal :=
  ⟨hu.scheme, hu.place, hu.file, hu.query⟩

end Normal

end Uri

end JsonSchema
