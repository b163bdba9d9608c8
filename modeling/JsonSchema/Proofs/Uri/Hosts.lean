import JsonSchema.Proofs.Uri.Percent
import JsonSchema.Proofs.Uri.Texts

/-!
# Hosts in normal form

Whatever text stands for a host, **the host that is read holds no character that ends it**, and colons only in
brackets (`Host.special_normal`, `Host.other_normal`).  An address is written in digits, a domain in ASCII
characters that domains may hold, and any other host in characters that no host is refused for.
-/

set_option autoImplicit false

namespace JsonSchema

/-! ## Encoded texts -/

namespace Percent

/-- A text that is encoded holds none of the characters that are always encoded, or that it did not hold
    before, unless encoding writes them. -/
theorem encode_avoids {reserved : Char → Bool} {stops cs : List Char}
    (hstops : ∀ c ∈ stops, (reserved c = true ∨ c ∉ cs) ∧ c ≠ '%' ∧ c ∉ "0123456789ABCDEF".toList) :
    Avoids stops (encode reserved cs) := by
  intro c hc hstop
  obtain ⟨hreserved, hpercent, hdigit⟩ := hstops c hstop
  rcases mem_encode hc with rfl | ⟨n, rfl⟩ | ⟨hmem, -, hkept⟩
  · exact hpercent rfl
  · have hdigits : ∀ d < 16, (Nat.digitChar d).toUpper ∈ "0123456789ABCDEF".toList := by decide
    exact hdigit (hdigits _ (Nat.mod_lt n (by decide)))
  · rcases hreserved with hreserved | hnotMem
    · rw [hkept] at hreserved
      cases hreserved
    · exact hnotMem hmem

end Percent

/-! ## Addresses -/

/-- Numbers are written in the characters of digits. -/
theorem exists_digit_of_mem_toDigits {base n : Nat} (hbase : 1 < base) {c : Char} (h : c ∈ Nat.toDigits base n) :
    ∃ d < base, c = Nat.digitChar d := by
  induction n using Nat.strongRecOn with
  | _ n ih =>
    rw [Nat.toDigits_eq_if hbase] at h
    split at h
    · next hlt => exact ⟨n, hlt, List.mem_singleton.mp h⟩
    · next hge =>
      rcases List.mem_append.mp h with h | h
      · exact ih (n / base) (Nat.div_lt_self (by omega) hbase) h
      · exact ⟨n % base, Nat.mod_lt n (by omega), List.mem_singleton.mp h⟩

/-- What is written in hexadecimal digits or points holds nothing that ends a host or a part of one. -/
def addressStops : List Char := ['/', '?', '#', '@', '[', ']']

theorem toDigits_avoids {base : Nat} (hbase : 1 < base) (hsmall : base ≤ 16) (n : Nat) :
    Avoids (':' :: addressStops) (Nat.toDigits base n) := by
  intro c hc
  obtain ⟨d, hd, rfl⟩ := exists_digit_of_mem_toDigits hbase hc
  have hdigits : ∀ d < 16, Nat.digitChar d ∉ ':' :: addressStops := by decide
  exact hdigits d (by omega)

theorem Ipv4.text_avoids (address : Nat) : Avoids (':' :: addressStops) (Ipv4.text address) := by
  have hbyte : ∀ i, Avoids (':' :: addressStops) (Nat.toDigits 10 (address >>> (8 * i) % 256)) := fun i =>
    toDigits_avoids (by decide) (by decide) _
  have hpoint : '.' ∉ ':' :: addressStops := by decide
  exact (((hbyte 3).append ((hbyte 2).cons hpoint)).append ((hbyte 1).cons hpoint)).append ((hbyte 0).cons hpoint)

namespace Ipv6

theorem groupsText_avoids (groups : List Nat) : Avoids addressStops (groupsText groups) := by
  have hdigits : ∀ g, Avoids addressStops (Nat.toDigits 16 g) := fun g =>
    (toDigits_avoids (by decide) (by decide) g).of_subset (List.subset_cons_self _ _)
  unfold groupsText
  cases groups with
  | nil => exact .nil
  | cons g rest =>
    refine (hdigits g).append fun c hc => ?_
    obtain ⟨g', -, hmem⟩ := List.mem_flatMap.mp hc
    exact Avoids.cons (by decide) (hdigits g') c hmem

theorem text_avoids (groups : List Nat) : Avoids addressStops (text groups) := by
  unfold text
  dsimp only
  split
  · exact groupsText_avoids _
  · exact (groupsText_avoids _).append (.cons (by decide) (.cons (by decide) (groupsText_avoids _)))

end Ipv6

/-! ## Domains -/

namespace Punycode

/-- The characters that Punycode adds. -/
def written : List Char := "abcdefghijklmnopqrstuvwxyz0123456789-".toList

theorem digitChar_written {d : Nat} (h : d < 36) : digitChar d ∈ written := by
  have hdigits : ∀ d < 36, digitChar d ∈ written := by decide
  exact hdigits d h

theorem writeNumber_written (bias place n : Nat) : ∀ c ∈ writeNumber bias place n, c ∈ written := by
  fun_induction writeNumber bias place n with
  | case1 place n hlt =>
    have hlimit := limit_le bias place
    exact List.forall_mem_singleton.mpr (digitChar_written (by omega))
  | case2 place n hge base rest ih =>
    have hlimit := limit_le bias place
    have hdigit : rest % base < base := Nat.mod_lt _ (by omega)
    exact List.forall_mem_cons.mpr ⟨digitChar_written (by omega), ih⟩

theorem writeCode_written (code : Nat) (text : List Nat) : ∀ p : Progress,
    ∀ c ∈ (writeCode code p text).1, c ∈ written := by
  induction text with
  | nil => exact fun _ _ hc => absurd hc List.not_mem_nil
  | cons d rest ih =>
    intro p
    rw [writeCode]
    split
    · exact ih _
    · split
      · exact List.forall_mem_append.mpr ⟨writeNumber_written _ _ _, ih _⟩
      · exact ih p

theorem writeCodes_written (text codes : List Nat) : ∀ floor (p : Progress),
    ∀ c ∈ writeCodes text floor p codes, c ∈ written := by
  induction codes with
  | nil => exact fun _ _ _ hc => absurd hc List.not_mem_nil
  | cons code rest ih =>
    intro floor p
    rw [writeCodes]
    exact List.forall_mem_append.mpr ⟨writeCode_written code text _, ih _ _⟩

/-- What is written holds the ASCII characters of the text, and those that Punycode adds. -/
theorem mem_encode {text : List Char} {c : Char} (h : c ∈ encode text) : c ∈ text ∨ c ∈ written := by
  unfold encode at h
  rcases List.mem_append.mp h with h | h
  · split at h
    · exact absurd h List.not_mem_nil
    · rcases List.mem_append.mp h with h | h
      · exact .inl (List.mem_of_mem_filter h)
      · obtain rfl := List.mem_singleton.mp h
        exact .inr (by decide)
  · exact .inr (writeCodes_written _ _ _ _ c h)

end Punycode

namespace Domain

/-- The characters that end a host, or set one in brackets apart. -/
def stops : List Char := [':', '[', '/', '?', '#', '@']

/-- The character of a code that domains may hold does not end a host. -/
theorem ofNat_notMem_stops {n : Nat} (h : isForbidden n = false) : Char.ofNat n ∉ stops := by
  have hforbidden : ∀ c ∈ stops, isForbidden c.toNat = true := List.all_iff_forall_prop.mp (by decide)
  by_cases hvalid : n.isValidChar
  · intro hstop
    have htoNat : (Char.ofNat n).toNat = n := by
      rw [Char.ofNat, dif_pos hvalid]
      rfl
    have hstopped := hforbidden _ hstop
    rw [htoNat, h] at hstopped
    cases hstopped
  · have hzero : Char.ofNat n = '\x00' := by
      rw [Char.ofNat, dif_neg hvalid]
      rfl
    rw [hzero]
    decide

/-- What a text is composed to holds no character that domains may not hold. -/
theorem normalForm?_allowed {text composed : List Nat} (h : normalForm? text = some composed) :
    ∀ n ∈ composed, isForbidden n = false := by
  unfold normalForm? at h
  split at h
  · dsimp only at h
    split at h
    · cases h
    · next hallowed =>
      obtain rfl := Option.some.inj h
      intro n hn
      exact Bool.eq_false_iff.mpr fun hforbidden => hallowed (List.any_eq_true.mpr ⟨n, hn, hforbidden⟩)
  · cases h

theorem readLabel?_allowed {label read : List Nat} (hlabel : ∀ n ∈ label, isForbidden n = false)
    (h : readLabel? label = some read) : ∀ n ∈ read, isForbidden n = false := by
  unfold readLabel? at h
  split at h
  · obtain ⟨text, -, h⟩ := Option.bind_eq_some_iff.mp h
    dsimp only at h
    split at h
    · next hkept =>
      obtain rfl := Option.some.inj h
      simp only [Bool.and_eq_true, beq_iff_eq] at hkept
      exact normalForm?_allowed hkept.1.2
    · cases h
  · split at h
    · obtain rfl := Option.some.inj h
      exact hlabel
    · cases h

theorem readLabels_allowed {labels : List (List Nat)} (h : ∀ label ∈ labels, ∀ n ∈ label, isForbidden n = false) :
    ∀ {read}, labels.mapM readLabel? = some read → ∀ label ∈ read, ∀ n ∈ label, isForbidden n = false := by
  induction labels with
  | nil =>
    intro read hread
    rw [List.mapM_nil] at hread
    obtain rfl := Option.some.inj hread
    exact fun _ hlabel => absurd hlabel List.not_mem_nil
  | cons label rest ih =>
    intro read hread
    obtain ⟨hlabel, hrest⟩ := List.forall_mem_cons.mp h
    rw [List.mapM_cons] at hread
    obtain ⟨first, hfirst, hread⟩ := Option.bind_eq_some_iff.mp hread
    obtain ⟨others, hothers, hread⟩ := Option.bind_eq_some_iff.mp hread
    obtain rfl := Option.some.inj hread
    exact List.forall_mem_cons.mpr ⟨readLabel?_allowed hlabel hfirst, ih hrest hothers⟩

theorem writeLabel_avoids {label : List Nat} (h : ∀ n ∈ label, isForbidden n = false) :
    Avoids stops ((writeLabel label).map Char.ofNat) := by
  have hlabel : Avoids stops (label.map Char.ofNat) :=
    List.forall_mem_map.mpr fun n hn => ofNat_notMem_stops (h n hn)
  have hwritten : Avoids stops Punycode.written := by decide
  unfold writeLabel
  split
  · exact hlabel
  · rw [List.map_append, List.map_map]
    refine Avoids.append (by decide) (List.forall_mem_map.mpr fun c hc => ?_)
    rw [Function.comp_apply, Char.ofNat_toNat]
    exact (Punycode.mem_encode hc).elim (hlabel c) (hwritten c)

/-- What holds of a separator and of the parts holds of the whole. -/
theorem forall_mem_intercalate {P : Nat → Prop} {sep : List Nat} (hsep : ∀ n ∈ sep, P n) {parts : List (List Nat)}
    (h : ∀ part ∈ parts, ∀ n ∈ part, P n) : ∀ n ∈ sep.intercalate parts, P n := by
  induction parts with
  | nil => exact fun _ hn => absurd hn List.not_mem_nil
  | cons first rest ih =>
    obtain ⟨hfirst, hrest⟩ := List.forall_mem_cons.mp h
    cases rest with
    | nil => rwa [List.intercalate_singleton]
    | cons second rest =>
      rw [List.intercalate_cons_cons]
      exact List.forall_mem_append.mpr ⟨List.forall_mem_append.mpr ⟨hfirst, hsep⟩, ih hrest⟩

theorem mem_intercalate_of_mem {sep part : List Nat} {parts : List (List Nat)} (h : part ∈ parts) {n : Nat}
    (hn : n ∈ part) : n ∈ sep.intercalate parts := by
  induction parts with
  | nil => exact absurd h List.not_mem_nil
  | cons first rest ih =>
    cases rest with
    | nil =>
      obtain rfl := List.mem_singleton.mp h
      rwa [List.intercalate_singleton]
    | cons second rest =>
      rw [List.intercalate_cons_cons]
      rcases List.mem_cons.mp h with rfl | h
      · exact List.mem_append_left _ (List.mem_append_left _ hn)
      · exact List.mem_append_right _ (ih h)

/-- A domain in its ASCII form holds no character that ends a host. -/
theorem toAscii?_avoids {bytes : List UInt8} {domain : List Char} (h : toAscii? bytes = some domain) :
    Avoids stops domain := by
  unfold toAscii? at h
  obtain ⟨spelled, -, h⟩ := Option.bind_eq_some_iff.mp h
  obtain ⟨text, htext, h⟩ := Option.bind_eq_some_iff.mp h
  obtain ⟨read, hread, h⟩ := Option.bind_eq_some_iff.mp h
  split at h
  · obtain rfl := Option.some.inj h
    have hpieces : ∀ label ∈ labels text, ∀ n ∈ label, isForbidden n = false := by
      intro label hlabel n hn
      have hmem := @mem_intercalate_of_mem ['.'.toNat] _ _ hlabel _ hn
      rw [labels, List.intercalate_splitOn] at hmem
      exact normalForm?_allowed htext n hmem
    have hread' := readLabels_allowed hpieces hread
    refine List.forall_mem_map.mpr (forall_mem_intercalate (by decide) ?_)
    refine List.forall_mem_map.mpr fun label hlabel n hn => ?_
    exact writeLabel_avoids (hread' label hlabel) (Char.ofNat n) (List.mem_map_of_mem hn)
  · cases h

end Domain

/-! ## Hosts -/

namespace Host

/-- A host that holds nothing that ends one, nor brackets, is in normal form. -/
theorem Normal.of_avoids {host : List Char} (h : Avoids Domain.stops host) : Normal host :=
  ⟨h.of_subset (by decide), .inr (h.of_subset (by decide))⟩

theorem normal_nil : Normal [] := .of_avoids .nil

theorem bracketed_normal {cs host : List Char} (h : bracketed cs = .ok host) : Normal host := by
  unfold bracketed at h
  split at h
  · split at h
    · next groups _ =>
      obtain rfl := Except.ok.inj h
      have htext := Ipv6.text_avoids groups
      refine ⟨?_, .inl ⟨Ipv6.text groups, rfl, htext.of_subset (by decide)⟩⟩
      exact .cons (by decide) ((htext.of_subset (by decide)).append (.cons (by decide) .nil))
    · cases h
  · cases h

/-- **The host of a special scheme is in normal form.** -/
theorem special_normal {cs host : List Char} (h : special cs = .ok host) : Normal host := by
  unfold special at h
  split at h
  · exact bracketed_normal h
  · split at h
    · cases h
    · cases h
    · next domain _ hdomain =>
      split at h
      · split at h
        · next address _ =>
          obtain rfl := Except.ok.inj h
          exact .of_avoids ((Ipv4.text_avoids address).of_subset (by decide))
        · cases h
      · obtain rfl := Except.ok.inj h
        exact .of_avoids (Domain.toAscii?_avoids hdomain)

/-- **The host of any other scheme is in normal form.** -/
theorem other_normal {cs host : List Char} (h : other cs = .ok host) : Normal host := by
  unfold other at h
  split at h
  · exact bracketed_normal h
  · split at h
    · cases h
    · next hallowed =>
      obtain rfl := Except.ok.inj h
      have hforbidden : ∀ c ∈ Domain.stops, isForbidden c = true ∧ c ≠ '%' ∧ c ∉ "0123456789ABCDEF".toList :=
        List.all_iff_forall_prop.mp (by decide)
      refine .of_avoids (Percent.encode_avoids fun c hc => ⟨.inr fun hmem => ?_, (hforbidden c hc).2⟩)
      exact hallowed (List.any_eq_true.mpr ⟨c, hmem, (hforbidden c hc).1⟩)

end Host

end JsonSchema
