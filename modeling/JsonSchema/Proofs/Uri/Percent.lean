import JsonSchema.Uri.Percent
import Mathlib.Data.List.Basic

/-!
# Decoding what has been encoded

**Decoding gives back the characters that were encoded** (`Percent.decode?_encode`), whichever of them are
written as bytes, as long as the percent sign is.  What a text is encoded to has no other characters than
those left as they are, percent signs and digits (`Percent.mem_encode`), so that encoding it once more
changes nothing if these may stay (`Percent.encode_eq_self`).
-/

set_option autoImplicit false

namespace JsonSchema

namespace Percent

/-! ## Bytes of a text -/

theorem byteArray_toList (bytes : ByteArray) : bytes.toList = bytes.data.toList := by
  have hloop : ∀ k i (front : List UInt8), i + k = bytes.size →
      ByteArray.toList.loop bytes i front = front.reverse ++ bytes.data.toList.drop i := by
    intro k
    induction k with
    | zero =>
      intro i front hi
      have hsize : bytes.data.toList.length ≤ i := by
        rw [Array.length_toList]
        exact Nat.le_of_eq hi.symm
      rw [ByteArray.toList.loop, if_neg (by omega), List.drop_eq_nil_of_le hsize, List.append_nil]
    | succ k ih =>
      intro i front hi
      have hlt : i < bytes.data.toList.length := by
        rw [Array.length_toList]
        show i < bytes.size
        omega
      have hbyte : bytes.get! i = bytes.data.toList[i] := getElem!_pos bytes.data i hlt
      rw [ByteArray.toList.loop, if_pos (by omega), ih (i + 1) _ (by omega), List.drop_eq_getElem_cons hlt, hbyte,
        List.reverse_cons, List.append_assoc, List.singleton_append]
  rw [ByteArray.toList, hloop bytes.size 0 [] (Nat.zero_add _)]
  rfl

variable {reserved : Char → Bool}

/-- The bytes of a character. -/
theorem bytes_singleton (c : Char) : (String.singleton c).toUTF8.toList = String.utf8EncodeChar c := by
  rw [byteArray_toList, String.toUTF8_eq_toByteArray, String.toByteArray_singleton, List.utf8Encode,
    List.flatMap_singleton, List.toList_data_toByteArray]

/-! ## One character -/

theorem hexValue?_upperHex (n : Nat) : hexValue? (upperHex n) = some (n % 16) := by
  have hdigits : ∀ d < 16, hexValue? (Nat.digitChar d).toUpper = some d := by decide
  exact hdigits _ (Nat.mod_lt n (by decide))

theorem decodeBytes_encodeByte (b : UInt8) (rest : List Char) :
    decodeBytes (encodeByte b ++ rest) = b :: decodeBytes rest := by
  have hvalue : b.toNat / 16 % 16 * 16 + b.toNat % 16 = b.toNat := by
    have hlt := b.toNat_lt_size
    have hsize : UInt8.size = 256 := rfl
    omega
  rw [encodeByte, List.cons_append, List.cons_append, List.cons_append, List.nil_append, decodeBytes,
    hexValue?_upperHex, hexValue?_upperHex]
  dsimp only
  rw [hvalue, UInt8.ofNat_toNat]

theorem decodeBytes_encodeBytes (bytes : List UInt8) (rest : List Char) :
    decodeBytes (bytes.flatMap encodeByte ++ rest) = bytes ++ decodeBytes rest := by
  induction bytes with
  | nil => rfl
  | cons b more ih =>
    rw [List.flatMap_cons, List.append_assoc, decodeBytes_encodeByte, ih, List.cons_append]

theorem decodeBytes_cons {c : Char} (h : c ≠ '%') (rest : List Char) :
    decodeBytes (c :: rest) = String.utf8EncodeChar c ++ decodeBytes rest := by
  rw [decodeBytes, bytes_singleton]
  exact fun _ _ _ hc => absurd hc h

theorem decodeBytes_encodeChar (hpercent : reserved '%' = true) (c : Char) (rest : List Char) :
    decodeBytes (encodeChar reserved c ++ rest) = String.utf8EncodeChar c ++ decodeBytes rest := by
  unfold encodeChar
  split
  · next hplain =>
    refine decodeBytes_cons ?_ rest
    rintro rfl
    rw [hpercent] at hplain
    cases hplain
  · rw [bytes_singleton, decodeBytes_encodeBytes]

/-! ## Texts -/

theorem decodeBytes_encode (hpercent : reserved '%' = true) (cs : List Char) :
    decodeBytes (encode reserved cs) = cs.flatMap String.utf8EncodeChar := by
  induction cs with
  | nil => rfl
  | cons c rest ih =>
    rw [encode, List.flatMap_cons, decodeBytes_encodeChar hpercent, List.flatMap_cons]
    exact congrArg _ ih

/-- A character that is not left as it is begins with a percent sign. -/
theorem percent_mem_encodeChar {c : Char} (h : encodeChar reserved c ≠ [c]) : '%' ∈ encodeChar reserved c := by
  unfold encodeChar at h ⊢
  split at h
  · exact absurd rfl h
  · next hencoded =>
    rw [if_neg hencoded, bytes_singleton]
    obtain ⟨b, more, hbytes⟩ := List.exists_cons_of_ne_nil (String.utf8EncodeChar_ne_nil (c := c))
    rw [hbytes]
    exact List.mem_append_left _ List.mem_cons_self

theorem encode_eq_of_percent_notMem {cs : List Char} (h : '%' ∉ encode reserved cs) :
    encode reserved cs = cs := by
  induction cs with
  | nil => rfl
  | cons c rest ih =>
    rw [encode, List.flatMap_cons, List.mem_append, not_or] at h
    have hc : encodeChar reserved c = [c] := by
      by_contra hne
      exact h.1 (percent_mem_encodeChar hne)
    rw [encode, List.flatMap_cons, hc]
    exact congrArg (c :: ·) (ih h.2)

/-- **Decoding gives back what was encoded.** -/
theorem decode?_encode (hpercent : reserved '%' = true) (cs : List Char) :
    decode? (encode reserved cs) = some cs := by
  unfold decode?
  split
  · have hbytes : (⟨(decodeBytes (encode reserved cs)).toArray⟩ : ByteArray) = cs.utf8Encode := by
      rw [decodeBytes_encode hpercent]
      exact ByteArray.ext List.data_toByteArray.symm
    have htext : String.fromUTF8? cs.utf8Encode = some (String.ofList cs) := by
      rw [String.fromUTF8?, dif_pos ByteArray.isValidUTF8_utf8Encode, Option.some.injEq,
        ← String.toByteArray_inj, String.toByteArray_ofList]
      rfl
    rw [hbytes, htext, Option.map_some, String.toList_ofList]
  · next hnone => rw [encode_eq_of_percent_notMem (by simpa using hnone)]

/-- What an encoded text consists of. -/
theorem mem_encode {cs : List Char} {c : Char} (h : c ∈ encode reserved cs) :
    c = '%' ∨ (∃ n, c = upperHex n) ∨ c ∈ cs ∧ c.toNat < 0x80 ∧ reserved c = false := by
  obtain ⟨d, hd, hc⟩ := List.mem_flatMap.mp h
  unfold encodeChar at hc
  split at hc
  · next hplain =>
    obtain rfl := List.mem_singleton.mp hc
    exact .inr (.inr ⟨hd, by simpa using hplain⟩)
  · obtain ⟨b, -, hc⟩ := List.mem_flatMap.mp hc
    simp only [encodeByte, List.mem_cons, List.not_mem_nil, or_false] at hc
    rcases hc with rfl | rfl | rfl
    · exact .inl rfl
    · exact .inr (.inl ⟨_, rfl⟩)
    · exact .inr (.inl ⟨_, rfl⟩)

/-- Characters that may stay are left as they are. -/
theorem encode_eq_self {cs : List Char} (h : ∀ c ∈ cs, c.toNat < 0x80 ∧ reserved c = false) :
    encode reserved cs = cs := by
  induction cs with
  | nil => rfl
  | cons c rest ih =>
    obtain ⟨⟨hascii, hc⟩, hrest⟩ := List.forall_mem_cons.mp h
    have hplain : encodeChar reserved c = [c] := by simp [encodeChar, hascii, hc]
    rw [encode, List.flatMap_cons, hplain]
    exact congrArg (c :: ·) (ih hrest)

end Percent

end JsonSchema
