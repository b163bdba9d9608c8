import JsonSchema.Proofs.Registry.Runs
import JsonSchema.Proofs.Uri.Hosts
import Mathlib.Data.List.TakeWhile

/-!
# What is read is in normal form

**Reading a URI, or a reference against a base in normal form, gives a URI in normal form**
(`Uri.read_normal`).  A path is read segment by segment; what each step keeps is `Uri.NormalRoute`: no segment
holds a character that ends one, and outside file URIs no path begins with a dot segment.
-/

set_option autoImplicit false

namespace JsonSchema

namespace Uri

variable {scheme : List Char} {bare : Prop} {ss : List (List Char)}

/-! ## Paths -/

/-- The segments of a path; one that stands bare, without an authority, does not begin with a dot segment. -/
structure NormalRoute (bare : Prop) (ss : List (List Char)) : Prop where
  segments : NormalSegments ss
  dotless : bare → ss.head? ≠ some ['.']

namespace NormalRoute

theorem nil : NormalRoute bare [] := ⟨fun _ hs => absurd hs List.not_mem_nil, fun _ => nofun⟩

theorem cons {s : List Char} (hs : Avoids ['/', '?', '#'] s) (hdot : s ≠ ['.']) (hss : NormalSegments ss) :
    NormalRoute bare (s :: ss) :=
  ⟨List.forall_mem_cons.mpr ⟨hs, hss⟩, fun _ hhead => hdot (Option.some.inj hhead)⟩

theorem dropLast (h : NormalRoute bare ss) : NormalRoute bare ss.dropLast := by
  refine ⟨fun s hs => h.segments s (List.dropLast_subset ss hs), fun hbare hhead => ?_⟩
  rw [List.head?_dropLast] at hhead
  split at hhead
  · exact h.dotless hbare hhead
  · cases hhead

theorem snoc (h : NormalRoute bare ss) {s : List Char} (hs : Avoids ['/', '?', '#'] s) (hdot : s ≠ ['.']) :
    NormalRoute bare (ss ++ [s]) := by
  refine ⟨List.forall_mem_append.mpr ⟨h.segments, List.forall_mem_singleton.mpr hs⟩, fun hbare hhead => ?_⟩
  cases ss with
  | nil => exact hdot (Option.some.inj hhead)
  | cons s' rest => exact h.dotless hbare hhead

/-- The last segment can be taken away, or kept if it is a drive letter in some sense. -/
theorem withoutLast (h : NormalRoute bare ss) (isDrive : List Char → Bool) :
    NormalRoute bare (match ss.getLast? with
      | some s => if isDrive s then ss else ss.dropLast
      | none => []) := by
  split
  · split
    · exact h
    · exact h.dropLast
  · exact nil

theorem dropLastSegment (h : NormalRoute bare ss) : NormalRoute bare (dropLastSegment scheme ss) :=
  h.withoutLast fun s => isFile scheme && isNormalDriveLetter s

/-- A dot segment is never added. -/
theorem pushSegment (h : NormalRoute bare ss) {s : List Char} (hs : Avoids ['/', '?', '#'] s)
    (slashFollows : Bool) : NormalRoute bare (pushSegment scheme ss s slashFollows) := by
  have hempty : ([] : List Char) ≠ ['.'] := nofun
  have hnone : NormalSegments [] := fun _ hmem => absurd hmem List.not_mem_nil
  have hdrive : ∀ {a : Char}, a ∈ s → Avoids ['/', '?', '#'] [a, ':'] := fun ha =>
    .cons (hs _ ha) (.cons (by decide) .nil)
  unfold Uri.pushSegment
  split
  · dsimp only
    split
    · exact h.withoutLast isDriveLetter
    · exact (h.withoutLast isDriveLetter).snoc .nil hempty
  · split
    · split
      · exact h
      · exact h.snoc .nil hempty
    · next hdot =>
      split
      · split
        · exact cons (hdrive List.mem_cons_self) nofun hnone
        · exact cons hs nofun hnone
      · split
        · exact cons (hdrive List.mem_cons_self) nofun
            (List.forall_mem_singleton.mpr fun d hd => hs d (.tail _ (.tail _ hd)))
        · exact cons hs nofun hnone
      · refine h.snoc hs ?_
        rintro rfl
        exact hdot (by decide)

end NormalRoute

/-- A character of a segment is written without those that end it. -/
theorem encodeChar_avoids {c : Char} (hend : ¬ (c = '?' ∨ c = '#')) (hslash : dividesPath scheme c ≠ true) :
    Avoids ['/', '?', '#'] (Percent.encodeChar inPathSet c) := by
  have hone : Percent.encodeChar inPathSet c = Percent.encode inPathSet [c] := (List.flatMap_singleton _ _).symm
  have hkept : ∀ d ∈ ['/', '?', '#'], d ≠ '%' ∧ d ∉ "0123456789ABCDEF".toList :=
    List.all_iff_forall_prop.mp (by decide)
  rw [hone]
  refine Percent.encode_avoids fun d hd => ⟨.inr fun hmem => ?_, hkept d hd⟩
  obtain rfl := List.mem_singleton.mp hmem
  simp only [List.mem_cons, List.not_mem_nil, or_false] at hd
  rcases hd with rfl | hd
  · exact hslash rfl
  · exact hend hd

theorem pushSegment_ne_nil (scheme : List Char) (ss : List (List Char)) (s : List Char) :
    pushSegment scheme ss s false ≠ [] := by
  unfold pushSegment
  split
  · exact List.append_ne_nil_of_right_ne_nil _ (List.cons_ne_nil _ _)
  · split
    · exact List.append_ne_nil_of_right_ne_nil _ (List.cons_ne_nil _ _)
    · split
      · split
        · exact List.cons_ne_nil _ _
        · exact List.cons_ne_nil _ _
      · split
        · exact List.cons_ne_nil _ _
        · exact List.cons_ne_nil _ _
      · exact List.append_ne_nil_of_right_ne_nil _ (List.cons_ne_nil _ _)

theorem readPath_normal {current : List Char} (h : NormalRoute bare ss)
    (hcurrent : Avoids ['/', '?', '#'] current.reverse) (cs : List Char) :
    NormalRoute bare (readPath scheme ss current cs).1 ∧ (readPath scheme ss current cs).1 ≠ [] := by
  induction cs generalizing ss current with
  | nil => exact ⟨h.pushSegment hcurrent _, pushSegment_ne_nil _ _ _⟩
  | cons c rest ih =>
    rw [readPath]
    split
    · exact ⟨h.pushSegment hcurrent _, pushSegment_ne_nil _ _ _⟩
    · next hend =>
      split
      · exact ih (h.pushSegment hcurrent _) .nil
      · next hslash =>
        refine ih h ?_
        rw [List.reverse_append, List.reverse_reverse]
        exact hcurrent.append (encodeChar_avoids hend hslash)

theorem trimFilePath_normal (hfile : bare → isFile scheme = false) (h : NormalRoute bare ss) (hne : ss ≠ []) :
    NormalRoute bare (trimFilePath scheme ss) ∧ trimFilePath scheme ss ≠ [] := by
  unfold trimFilePath
  split
  · next htrue =>
    have hnot : ¬ bare := fun hbare => absurd htrue (Bool.eq_false_iff.mp (hfile hbare))
    split
    · exact ⟨⟨List.forall_mem_singleton.mpr .nil, fun hbare => absurd hbare hnot⟩, List.cons_ne_nil _ _⟩
    · next hnonempty =>
      exact ⟨⟨fun s hs => h.segments s ((List.dropWhile_sublist _).mem hs), fun hbare => absurd hbare hnot⟩,
        hnonempty⟩
  · exact ⟨h, hne⟩

/-- **A path that continues a normal one is normal, and not empty.** -/
theorem continuePath_normal (hfile : bare → isFile scheme = false) (h : NormalRoute bare ss) (cs : List Char) :
    NormalRoute bare (continuePath scheme ss cs).1 ∧ (continuePath scheme ss cs).1 ≠ [] :=
  have hread := readPath_normal h .nil cs
  trimFilePath_normal hfile hread.1 hread.2

/-- Behind an authority, a path may begin with any segment. -/
theorem continuePath_segments (h : NormalSegments ss) (cs : List Char) :
    NormalSegments (continuePath scheme ss cs).1 :=
  (@continuePath_normal scheme False ss False.elim ⟨h, False.elim⟩ cs).1.segments

theorem readPathStart_normal (scheme cs : List Char) : NormalSegments (readPathStart scheme cs).1 := by
  have hnil : NormalSegments [] := fun _ hs => absurd hs List.not_mem_nil
  unfold readPathStart
  split
  · split
    · exact List.forall_mem_singleton.mpr .nil
    · exact hnil
  · split
    · exact continuePath_segments hnil _
    · split
      · exact hnil
      · exact continuePath_segments hnil _

/-! ## Parts of a URI -/

/-- No letter becomes a colon in lower case. -/
theorem eq_colon_of_toLower {c : Char} (h : c.toLower = ':') : c = ':' := by
  unfold Char.toLower at h
  split at h
  · next hupper =>
    have hge : 65 ≤ c.val.toNat := UInt32.le_iff_toNat_le.mp hupper.1
    have hle : c.val.toNat ≤ 90 := UInt32.le_iff_toNat_le.mp hupper.2
    have hsum : (c.val + ('a'.val - 'A'.val)).toNat = 58 := congrArg (fun d : Char => d.val.toNat) h
    have hdifference : ('a'.val - 'A'.val).toNat = 32 := rfl
    rw [UInt32.toNat_add, hdifference] at hsum
    omega
  · exact h

theorem readScheme?_avoids {cs rest : List Char} (h : readScheme? cs = some (scheme, rest)) :
    Avoids [':'] scheme := by
  unfold readScheme? at h
  dsimp only at h
  split at h
  · cases h
  · split at h
    · cases h
    · split at h
      · obtain ⟨rfl, -⟩ := Prod.mk.inj (Option.some.inj h)
        refine List.forall_mem_map.mpr fun c hc hcolon => ?_
        have hkept := List.mem_takeWhile_imp hc
        rw [eq_colon_of_toLower (List.mem_singleton.mp hcolon)] at hkept
        exact absurd hkept (by decide)
      · cases h

/-- The query that is read ends at the hash. -/
theorem withTail_normal {authority : Option Authority} {path : UriPath} (hscheme : Avoids [':'] scheme)
    (hplace : NormalPlace authority path) (hfile : isFile scheme = true → authority.isSome) (cs : List Char) :
    (withTail scheme authority path cs).Normal := by
  refine ⟨hscheme, hplace, hfile, fun q hq => ?_⟩
  unfold withTail readTail at hq
  dsimp only at hq
  split at hq
  · obtain rfl := Option.some.inj hq
    refine Percent.encode_avoids fun c hc => ?_
    obtain rfl := List.mem_singleton.mp hc
    exact ⟨.inl (by simp [inQuerySet]), by decide, by decide⟩
  · cases hq

/-- A path that continues the segments of a normal one stands in its place. -/
theorem NormalPlace.continued {authority : Option Authority} {path : UriPath} (h : NormalPlace authority path)
    {ss : List (List Char)} (hss : NormalRoute (authority = none) ss) (hne : ss ≠ []) :
    NormalPlace authority (.segments ss) := by
  have hbare : authority = none → NormalPlace none (.segments ss) := by
    intro hnone
    obtain ⟨s, rest, rfl⟩ := List.exists_cons_of_ne_nil hne
    exact .rooted hss.segments fun hs => hss.dotless hnone (congrArg some hs)
  cases h with
  | authority ha _ => exact .authority ha hss.segments
  | rooted _ _ => exact hbare rfl
  | rootless _ _ => exact hbare rfl

/-- The segments of a path, if it has any. -/
def segmentsOf (path : UriPath) : List (List Char) :=
  match path with
  | .segments ss => ss
  | .rootless _ => []

namespace Normal

variable {u : Uri}

theorem route (h : u.Normal) : NormalRoute (u.authority = none) (segmentsOf u.path) := by
  obtain ⟨scheme, authority, path, query, fragment⟩ := u
  obtain ⟨-, hplace, -, -⟩ := h
  dsimp only at hplace ⊢
  cases hplace with
  | authority _ hss => exact ⟨hss, nofun⟩
  | rooted hss hs => exact ⟨hss, fun _ hhead => hs (Option.some.inj hhead)⟩
  | rootless _ _ => exact .nil

theorem not_file (h : u.Normal) (hnone : u.authority = none) : isFile u.scheme = false := by
  refine Bool.eq_false_iff.mpr fun hfile => ?_
  have hsome := h.file hfile
  rw [hnone] at hsome
  cases hsome

/-- The host of a URI, if it has one, is in normal form. -/
theorem host (h : u.Normal) : Host.Normal ((u.authority.map (·.host)).getD []) := by
  obtain ⟨scheme, authority, path, query, fragment⟩ := u
  obtain ⟨-, hplace, -, -⟩ := h
  dsimp only at hplace ⊢
  cases hplace with
  | authority ha _ => exact ha.host
  | rooted _ _ => exact Host.normal_nil
  | rootless _ _ => exact Host.normal_nil

/-- A reference with a path of its own leads to a URI in normal form. -/
theorem withPath (h : u.Normal) {ss : List (List Char)} (hss : NormalRoute (u.authority = none) ss)
    (cs tail : List Char) :
    (withTail u.scheme u.authority (.segments (continuePath u.scheme ss cs).1) tail).Normal :=
  have hpath := continuePath_normal h.not_file hss cs
  withTail_normal h.scheme (h.place.continued hpath.1 hpath.2) h.file tail

/-- A reference that is a query leads to a URI in normal form. -/
theorem withQuery (h : u.Normal) (cs : List Char) : (withTail u.scheme u.authority u.path cs).Normal :=
  withTail_normal h.scheme h.place h.file cs

end Normal

/-! ## Authorities -/

theorem readUserinfo_avoids {cs username password rest : List Char}
    (h : readUserinfo scheme cs = .ok (username, password, rest)) :
    Avoids ['/', '?', '#', '@', ':'] username ∧ Avoids ['/', '?', '#', '@', ':'] password := by
  have hencoded : ∀ text, Avoids ['/', '?', '#', '@', ':'] (Percent.encode inUserinfoSet text) := by
    have hstops : ∀ c ∈ ['/', '?', '#', '@', ':'],
        inUserinfoSet c = true ∧ c ≠ '%' ∧ c ∉ "0123456789ABCDEF".toList :=
      List.all_iff_forall_prop.mp (by decide)
    exact fun text => Percent.encode_avoids fun c hc => ⟨.inl (hstops c hc).1, (hstops c hc).2⟩
  unfold readUserinfo at h
  dsimp only at h
  split at h
  · obtain ⟨rfl, hrest⟩ := Prod.mk.inj (Except.ok.inj h)
    obtain ⟨rfl, -⟩ := Prod.mk.inj hrest
    exact ⟨.nil, .nil⟩
  · split at h
    · cases h
    · obtain ⟨rfl, hrest⟩ := Prod.mk.inj (Except.ok.inj h)
      obtain ⟨rfl, -⟩ := Prod.mk.inj hrest
      exact ⟨hencoded _, hencoded _⟩

/-- What stands behind two slashes is read to a URI with an authority. -/
theorem afterSlashes_normal (hscheme : Avoids [':'] scheme) {cs : List Char} {u : Uri}
    (h : afterSlashes scheme cs = .ok u) : u.Normal := by
  have hread : ∀ {username password host : List Char} {port : Option Nat} {cs tail : List Char},
      Avoids ['/', '?', '#', '@', ':'] username ∧ Avoids ['/', '?', '#', '@', ':'] password → Host.Normal host →
      (withTail scheme (some ⟨username, password, host, port⟩) (.segments (readPathStart scheme cs).1) tail).Normal :=
    fun huser hhost => withTail_normal hscheme (.authority ⟨huser.1, huser.2, hhost⟩ (readPathStart_normal _ _))
      (fun _ => rfl) _
  have hostOf : ∀ {text : List Char} {f : List Char → Except UriError Uri},
      (if isSpecial scheme then
        if text.isEmpty then .error .emptyHost >>= f else Host.special text >>= f
      else Host.other text >>= f) = .ok u → ∃ host, Host.Normal host ∧ f host = .ok u := by
    intro text f h
    split at h
    · split at h
      · cases h
      · obtain ⟨host, hhost, h⟩ := bind_eq_ok.mp h
        exact ⟨host, Host.special_normal hhost, h⟩
    · obtain ⟨host, hhost, h⟩ := bind_eq_ok.mp h
      exact ⟨host, Host.other_normal hhost, h⟩
  unfold afterSlashes at h
  obtain ⟨⟨username, password, rest⟩, huser, h⟩ := bind_eq_ok.mp h
  dsimp only at h
  obtain ⟨host, hhost, h⟩ := hostOf h
  split at h
  · cases h
  · split at h
    · obtain ⟨⟨port, rest⟩, -, h⟩ := bind_eq_ok.mp h
      dsimp only at h
      split at h
      · cases h
      · obtain rfl := Except.ok.inj h
        exact hread (readUserinfo_avoids huser) hhost
    · obtain ⟨⟨port, rest⟩, -, h⟩ := bind_eq_ok.mp h
      dsimp only at h
      split at h
      · cases h
      · obtain rfl := Except.ok.inj h
        exact hread (readUserinfo_avoids huser) hhost

/-! ## File URIs -/

theorem fileScheme_avoids : Avoids [':'] fileScheme := by decide

theorem fileUri_normal {host : List Char} (hhost : Host.Normal host) (hss : NormalSegments ss) (cs : List Char) :
    (fileUri host ss cs).Normal :=
  withTail_normal fileScheme_avoids (.authority ⟨.nil, .nil, hhost⟩ hss) (fun _ => rfl) cs

theorem normalSegments_nil : NormalSegments [] := fun _ hs => absurd hs List.not_mem_nil

theorem afterFileSlashes_normal {cs : List Char} {u : Uri} (h : afterFileSlashes cs = .ok u) : u.Normal := by
  have hread : ∀ {host : List Char} {drive : Bool} {cs tail : List Char}, Host.Normal host →
      (fileUri (if drive then [] else if host = "localhost".toList then [] else host)
        (readPathStart fileScheme cs).1 tail).Normal := by
    intro host drive cs tail hhost
    refine fileUri_normal ?_ (readPathStart_normal _ _) _
    split
    · exact Host.normal_nil
    · split
      · exact Host.normal_nil
      · exact hhost
  unfold afterFileSlashes at h
  dsimp only at h
  split at h
  · obtain rfl := Except.ok.inj h
    exact fileUri_normal Host.normal_nil (continuePath_segments normalSegments_nil _) _
  · split at h
    · obtain rfl := Except.ok.inj h
      exact hread Host.normal_nil
    · obtain ⟨host, hhost, h⟩ := bind_eq_ok.mp h
      obtain rfl := Except.ok.inj h
      exact hread (Host.special_normal hhost)

namespace readFile

variable {base : Option Uri} {cs : List Char} {u : Uri}

/-- The drive that a path with a slash in front takes over from the base is in normal form. -/
theorem drive_normal : (∀ b ∈ base, b.Normal) → NormalSegments (match base with
      | some b => match b.path with
        | .segments (s :: _) => if isNormalDriveLetter s then [s] else []
        | _ => []
      | none => []) := by
  intro hbase
  cases base with
  | none => exact normalSegments_nil
  | some b =>
    have hroute := (hbase b rfl).route.segments
    dsimp only
    split
    · next s rest hpath =>
      rw [hpath] at hroute
      split
      · exact List.forall_mem_singleton.mpr (hroute s List.mem_cons_self)
      · exact normalSegments_nil
    · exact normalSegments_nil

/-- A path behind one slash keeps the drive letter or the host of a base in normal form. -/
theorem rooted_normal (hbase : ∀ b ∈ base, b.Normal) (h : readFile.rooted base cs = .ok u) : u.Normal := by
  have hhost : ∀ drive : List (List Char), Host.Normal
      (if drive.isEmpty then ((base.bind (·.authority)).map (·.host)).getD [] else []) := by
    intro drive
    split
    · cases base with
      | none => exact Host.normal_nil
      | some b => exact (hbase b rfl).host
    · exact Host.normal_nil
  unfold readFile.rooted at h
  dsimp only at h
  split at h
  · obtain rfl := Except.ok.inj h
    exact fileUri_normal Host.normal_nil (continuePath_segments normalSegments_nil _) _
  · obtain rfl := Except.ok.inj h
    exact fileUri_normal (hhost _) (continuePath_segments (drive_normal hbase) _) _

/-- Anything but a slash in front continues the path of a base in normal form. -/
theorem relative_normal (hbase : ∀ b ∈ base, b.Normal ∧ isFile b.scheme = true)
    (h : readFile.relative base cs = .ok u) : u.Normal := by
  have hfresh : (fileUri [] (continuePath fileScheme [] cs).1 (continuePath fileScheme [] cs).2).Normal :=
    fileUri_normal Host.normal_nil (continuePath_segments normalSegments_nil _) _
  unfold readFile.relative at h
  cases base with
  | none =>
    obtain rfl := Except.ok.inj h
    exact hfresh
  | some b =>
    obtain ⟨hb, hfile⟩ := hbase b rfl
    dsimp only at h
    split at h
    · obtain rfl := Except.ok.inj h
      exact hb.withFragment _
    · obtain rfl := Except.ok.inj h
      exact withTail_normal fileScheme_avoids hb.place (fun _ => hb.file hfile) _
    · obtain rfl := Except.ok.inj h
      exact hb.withFragment _
    · split at h
      · obtain rfl := Except.ok.inj h
        exact hfresh
      · obtain rfl := Except.ok.inj h
        have hnot : b.authority = none → isFile fileScheme = false := by
          intro hnone
          rw [hb.not_file hnone] at hfile
          cases hfile
        have hbefore : NormalRoute (b.authority = none) (match b.path with
            | .segments ss => dropLastSegment fileScheme ss
            | .rootless _ => []) := by
          have hroute := hb.route
          cases hpath : b.path with
          | segments ss =>
            rw [hpath] at hroute
            exact hroute.dropLastSegment
          | rootless t => exact .nil
        have hpath := continuePath_normal hnot hbefore cs
        exact withTail_normal fileScheme_avoids (hb.place.continued hpath.1 hpath.2) (fun _ => hb.file hfile) _

end readFile

theorem readFile_normal {base : Option Uri} {cs : List Char} {u : Uri}
    (hbase : ∀ b ∈ base, b.Normal ∧ isFile b.scheme = true) (h : readFile base cs = .ok u) : u.Normal := by
  have hrooted := fun b hb => (hbase b hb).1
  unfold readFile at h
  split at h
  · split at h
    · exact afterFileSlashes_normal h
    · split at h
      · exact readFile.rooted_normal hrooted h
      · exact readFile.relative_normal hbase h
  · split at h
    · exact readFile.rooted_normal hrooted h
    · exact readFile.relative_normal hbase h
  · exact readFile.relative_normal hbase h

/-! ## References -/

theorem readRelative_normal {base : Uri} (hbase : base.Normal) {cs : List Char} {u : Uri}
    (h : readRelative base cs = .ok u) : u.Normal := by
  unfold readRelative at h
  dsimp only at h
  split at h
  · obtain rfl := Except.ok.inj h
    exact hbase.withFragment _
  · obtain rfl := Except.ok.inj h
    exact hbase.withQuery _
  · obtain rfl := Except.ok.inj h
    exact hbase.withFragment _
  · split at h
    · split at h
      · split at h
        · exact afterSlashes_normal hbase.scheme h
        · exact afterSlashes_normal hbase.scheme h
      · obtain rfl := Except.ok.inj h
        exact hbase.withPath .nil _ _
    · obtain rfl := Except.ok.inj h
      exact hbase.withPath hbase.route.dropLastSegment _ _

/-- A text that does not begin with a slash is not encoded to one that does. -/
theorem encode_head?_ne_slash {reserved : Char → Bool} {cs : List Char} (h : cs.head? ≠ some '/') :
    (Percent.encode reserved cs).head? ≠ some '/' := by
  cases cs with
  | nil => exact nofun
  | cons c rest =>
    rw [Percent.encode, List.flatMap_cons]
    unfold Percent.encodeChar
    split
    · exact fun hhead => h hhead
    · rw [Percent.bytes_singleton]
      obtain ⟨b, more, hbytes⟩ := List.exists_cons_of_ne_nil (String.utf8EncodeChar_ne_nil (c := c))
      rw [hbytes]
      exact fun hhead => absurd (Option.some.inj hhead) (by decide)

/-- A path that no reference resolves against does not begin with a slash. -/
theorem rootless_normal (hscheme : Avoids [':'] scheme) (hfile : isFile scheme = false) {cs : List Char}
    (hslash : cs.head? ≠ some '/') (tail : List Char) :
    (withTail scheme none (.rootless (Percent.encode Host.isControl (cs.takeWhile fun c => c != '?' && c != '#')))
      tail).Normal := by
  refine withTail_normal hscheme (.rootless (Percent.encode_avoids fun c hc => ⟨.inr fun hmem => ?_, ?_⟩) ?_)
    (fun hfile' => absurd hfile' (Bool.eq_false_iff.mp hfile)) _
  · have hkept := List.mem_takeWhile_imp hmem
    have hstops : ∀ c ∈ ['?', '#'], (c != '?' && c != '#') = false := List.all_iff_forall_prop.mp (by decide)
    rw [hstops c hc] at hkept
    cases hkept
  · have hstops : ∀ c ∈ ['?', '#'], c ≠ '%' ∧ c ∉ "0123456789ABCDEF".toList :=
      List.all_iff_forall_prop.mp (by decide)
    exact hstops c hc
  · refine encode_head?_ne_slash fun hhead => ?_
    rw [List.head?_takeWhile] at hhead
    exact hslash (Option.filter_eq_some_iff.mp hhead).1

theorem readWithScheme_normal {base : Option Uri} (hbase : ∀ b ∈ base, b.Normal) (hscheme : Avoids [':'] scheme)
    {cs : List Char} {u : Uri} (h : readWithScheme base scheme cs = .ok u) : u.Normal := by
  unfold readWithScheme at h
  split at h
  · refine readFile_normal (fun b hb => ?_) h
    obtain ⟨hb, hfile⟩ := Option.filter_eq_some_iff.mp hb
    exact ⟨hbase b hb, hfile⟩
  · next hfile =>
    have hnot : isFile scheme = false := Bool.eq_false_iff.mpr hfile
    split at h
    · dsimp only at h
      split at h
      · next b =>
        split at h
        · exact readRelative_normal (hbase b rfl) h
        · exact afterSlashes_normal hscheme h
      · exact afterSlashes_normal hscheme h
    · split at h
      · exact afterSlashes_normal hscheme h
      · next cs _ =>
        obtain rfl := Except.ok.inj h
        obtain ⟨hpath, hne⟩ := continuePath_normal (fun _ : True => hnot) .nil cs
        obtain ⟨s, ss, hss⟩ := List.exists_cons_of_ne_nil hne
        rw [hss] at hpath
        have hplace : NormalPlace none (.segments (continuePath scheme [] cs).1) := by
          rw [hss]
          exact .rooted hpath.segments fun hs => hpath.dotless trivial (congrArg some hs)
        exact withTail_normal hscheme hplace (fun hfile' => absurd hfile' hfile) _
      · next cs _ hslash =>
        obtain rfl := Except.ok.inj h
        refine rootless_normal hscheme hnot (fun hhead => ?_) _
        obtain ⟨rest, hrest⟩ := List.head?_eq_some_iff.mp hhead
        exact hslash rest hrest

/-- **What is read, alone or against a base in normal form, is in normal form.** -/
theorem read_normal {base : Option Uri} (hbase : ∀ b ∈ base, b.Normal) {text : String} {u : Uri}
    (h : read base text = .ok u) : u.Normal := by
  unfold read at h
  dsimp only at h
  split at h
  · next scheme rest hscheme => exact readWithScheme_normal hbase (readScheme?_avoids hscheme) h
  · split at h
    · cases h
    · next b =>
      have hb := hbase b rfl
      split at h
      · obtain rfl := Except.ok.inj h
        exact hb.withFragment _
      · split at h
        · cases h
        · split at h
          · next hfile => 
            refine readFile_normal (fun b' hb' => ?_) h
            obtain rfl := Option.some.inj hb'
            exact ⟨hb, hfile⟩
          · exact readRelative_normal hb h

end Uri

end JsonSchema
