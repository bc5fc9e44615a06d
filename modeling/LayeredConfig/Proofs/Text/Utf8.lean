import LayeredConfig.Text.Utf8

/-
  The UTF-8 bytes of a text determine the text (`utf8_injective`), and a byte below 128 in them
  stands for the character with that code (`mem_of_mem_utf8`), so a text without a character
  of ASCII has bytes without its code.
-/

namespace LayeredConfig.Text

/-- Two texts with the same UTF-8 bytes are equal. -/
theorem utf8_injective {s t : String} (h : utf8 s = utf8 t) : s = t := by
  apply String.toByteArray_inj.mp
  rw [← String.utf8Encode_toList, ← String.utf8Encode_toList]
  exact congrArg List.toByteArray h

/-- A byte below 128 is no continuation byte and starts no longer code. -/
theorem ne_ofNat_of_toNat_lt {b : UInt8} (hb : b.toNat < 128) {n : Nat} (hlow : 128 ≤ n)
    (hhigh : n < 256) : b ≠ UInt8.ofNat n := by
  rintro rfl
  rw [UInt8.toNat_ofNat', Nat.mod_eq_of_lt hhigh] at hb
  omega

/-- A byte below 128 among the bytes of a character is the code of the character. -/
theorem toNat_of_mem_utf8EncodeChar {c : Char} {b : UInt8} (hb : b.toNat < 128)
    (h : b ∈ String.utf8EncodeChar c) : c.toNat = b.toNat := by
  simp only [String.utf8EncodeChar] at h
  split at h
  · rw [List.mem_singleton.mp h, UInt8.toNat_ofNat']
    change c.val.toNat = _
    omega
  · -- every byte of a longer code has its highest bit set
    exfalso
    split at h
    · simp only [List.mem_cons, List.not_mem_nil, or_false] at h
      rcases h with h | h <;> exact ne_ofNat_of_toNat_lt hb (by omega) (by omega) h
    · split at h <;> simp only [List.mem_cons, List.not_mem_nil, or_false] at h
      · rcases h with h | h | h <;> exact ne_ofNat_of_toNat_lt hb (by omega) (by omega) h
      · rcases h with h | h | h | h <;> exact ne_ofNat_of_toNat_lt hb (by omega) (by omega) h

/-- A character of ASCII is in a text when its code is one of the bytes of the text. -/
theorem mem_of_mem_utf8 {s : String} {c : Char} (hc : c.toNat < 128)
    (h : UInt8.ofNat c.toNat ∈ utf8 s) : c ∈ s.toList := by
  have hcode : (UInt8.ofNat c.toNat).toNat = c.toNat := by
    rw [UInt8.toNat_ofNat']
    omega
  obtain ⟨d, hd, hb⟩ := List.mem_flatMap.mp h
  have hdc := toNat_of_mem_utf8EncodeChar (by omega) hb
  rw [hcode] at hdc
  rwa [← Char.toNat_inj.mp hdc]

end LayeredConfig.Text
