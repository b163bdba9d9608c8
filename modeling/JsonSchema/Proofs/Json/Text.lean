import JsonSchema.Json.Text
import JsonSchema.Proofs.Json.Pointers

/-!
# Texts on one line

The compact text of a JSON value has no control characters, since those in strings are escaped
(`Json.text_oneLine`): it is one line, whatever the value.
-/

set_option autoImplicit false

namespace JsonSchema

/-- No control character is among them, so no line break. -/
def OneLine (cs : List Char) : Prop := ∀ c ∈ cs, 0x20 ≤ c.toNat

instance : DecidablePred OneLine := List.decidableBAll fun c : Char => 0x20 ≤ c.toNat

namespace OneLine

variable {cs ds : List Char}

theorem nil : OneLine [] := fun _ h => absurd h List.not_mem_nil

theorem cons {c : Char} (hc : 0x20 ≤ c.toNat) (h : OneLine cs) : OneLine (c :: cs) :=
  List.forall_mem_cons.mpr ⟨hc, h⟩

theorem append (hc : OneLine cs) (hd : OneLine ds) : OneLine (cs ++ ds) := List.forall_mem_append.mpr ⟨hc, hd⟩

theorem replicate {c : Char} (hc : 0x20 ≤ c.toNat) (n : Nat) : OneLine (List.replicate n c) := by
  intro d hd
  rwa [List.eq_of_mem_replicate hd]

theorem of_subset (h : OneLine cs) (hsub : ds ⊆ cs) : OneLine ds := fun c hc => h c (hsub hc)

theorem intercalate {lists : List (List Char)} (hsep : OneLine ds) (h : ∀ l ∈ lists, OneLine l) :
    OneLine (ds.intercalate lists) := by
  induction lists with
  | nil => exact .nil
  | cons first rest ih =>
    obtain ⟨hfirst, hrest⟩ := List.forall_mem_cons.mp h
    cases rest with
    | nil => simpa [List.intercalate] using hfirst
    | cons second rest =>
      rw [List.intercalate_cons_cons]
      exact (hfirst.append hsep).append (ih hrest)

/-- Numerals are on one line. -/
theorem digits (n : Nat) : OneLine (Nat.toDigits 10 n) := by
  intro c hc
  have hdigit : c.isDigit = true := Nat.isDigit_of_mem_toDigits (by decide) (by decide) hc
  simp only [Char.isDigit, Bool.and_eq_true, decide_eq_true_eq] at hdigit
  have h0 : (48 : UInt32) ≤ c.val := hdigit.1
  have : 48 ≤ c.toNat := h0
  omega

end OneLine

/-! ## Numbers -/

namespace Decimal

variable (d : Decimal)

theorem trimmed_oneLine : OneLine d.trimmed := by
  refine (OneLine.digits d.digits).of_subset fun c hc => ?_
  have hdropped := List.mem_reverse.mp hc
  exact List.mem_reverse.mp ((List.dropWhile_sublist _).subset hdropped)

theorem positional_oneLine : OneLine d.positional := by
  have ht := d.trimmed_oneLine
  unfold positional
  dsimp only
  split
  · exact (ht.append (.replicate (by decide) _)).append (by decide)
  · split
    · exact (ht.of_subset (List.take_subset _ _)).append (.cons (by decide) (ht.of_subset (List.drop_subset _ _)))
    · exact .cons (by decide) (.cons (by decide) (.append (.replicate (by decide) _) ht))

theorem scientific_oneLine : OneLine d.scientific := by
  have ht := d.trimmed_oneLine
  unfold scientific
  refine .append ?_ (.cons (by decide) (.cons ?_ (.digits _)))
  · split
    · next heq =>
      rw [heq] at ht
      obtain ⟨hfirst, hrest⟩ := List.forall_mem_cons.mp ht
      exact .cons hfirst (.cons (by decide) hrest)
    · exact ht
  · split <;> decide

end Decimal

theorem Binary64.text_oneLine (x : Binary64) : OneLine x.text.toList := by
  unfold text
  rw [String.toList_ofList]
  refine .append ?_ ?_
  · split
    · decide
    · exact .nil
  · split
    · decide
    · dsimp only
      split
      · exact x.shortest.positional_oneLine
      · exact x.shortest.scientific_oneLine

theorem Number.text_oneLine (n : Number) : OneLine n.text.toList := by
  cases n with
  | double x => exact x.text_oneLine
  | int n _ =>
    show OneLine (toString n).toList
    cases n with
    | ofNat k =>
      rw [show toString (Int.ofNat k) = Nat.repr k from rfl, Nat.repr_eq_ofList_toDigits, String.toList_ofList]
      exact .digits k
    | negSucc k =>
      rw [show toString (Int.negSucc k) = "-" ++ Nat.repr (k + 1) from rfl, Nat.repr_eq_ofList_toDigits,
        String.toList_append]
      refine .append (by decide) ?_
      rw [String.toList_ofList]
      exact .digits _

/-! ## Values -/

namespace Json

theorem hexDigit_printable (n : Nat) : 0x20 ≤ (hexDigit n).toNat := by
  have h : ∀ k < 16, 0x20 ≤ (Nat.digitChar k).toNat := by decide
  exact h _ (Nat.mod_lt _ (by decide))

theorem escapeChar_oneLine (c : Char) : OneLine (escapeChar c) := by
  unfold escapeChar
  -- the short escapes are all decided alike; what remains are the long escape and the character itself
  repeat' (split; decide)
  split
  · have hprefix : OneLine ['\\', 'u', '0', '0'] := by decide
    exact hprefix.append (.cons (hexDigit_printable _) (.cons (hexDigit_printable _) .nil))
  · next hc => exact .cons (by omega) .nil

theorem quote_oneLine (s : String) : OneLine (quote s).toList := by
  unfold quote
  rw [String.toList_ofList]
  refine .cons (by decide) (.append (fun c hc => ?_) (by decide))
  obtain ⟨d, -, hd⟩ := List.mem_flatMap.mp hc
  exact escapeChar_oneLine d c hd

mutual

/-- **The text of a value is one line.** -/
theorem text_oneLine : ∀ v : Json, OneLine v.text.toList
  | .null => by decide
  | .bool true => by decide
  | .bool false => by decide
  | .num n => n.text_oneLine
  | .str s => quote_oneLine s
  | .arr items => by
    rw [text, String.toList_append, String.toList_append, String.toList_intercalate]
    refine .append (.append (by decide) (.intercalate (by decide) ?_)) (by decide)
    exact List.forall_mem_map.mpr (textItems_oneLine items)
  | .obj members => by
    rw [text, String.toList_append, String.toList_append, String.toList_intercalate]
    refine .append (.append (by decide) (.intercalate (by decide) ?_)) (by decide)
    exact List.forall_mem_map.mpr (textMembers_oneLine members)

theorem textItems_oneLine : ∀ items : List Json, ∀ s ∈ textItems items, OneLine s.toList
  | [] => fun _ h => absurd h List.not_mem_nil
  | v :: rest => List.forall_mem_cons.mpr ⟨text_oneLine v, textItems_oneLine rest⟩

theorem textMembers_oneLine : ∀ members : List (String × Json), ∀ s ∈ textMembers members, OneLine s.toList
  | [] => fun _ h => absurd h List.not_mem_nil
  | (name, v) :: rest => by
    refine List.forall_mem_cons.mpr ⟨?_, textMembers_oneLine rest⟩
    rw [String.toList_append, String.toList_append]
    exact .append (.append (quote_oneLine name) (by decide)) (text_oneLine v)

end

end Json

end JsonSchema
