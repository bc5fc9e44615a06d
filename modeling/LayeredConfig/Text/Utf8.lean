/-
  The UTF-8 bytes of a text as a plain list, and their number. The number is counted character
  by character, without writing the bytes; `length_utf8` says that it is right.
-/

namespace LayeredConfig.Text

/-- The UTF-8 bytes of a text. -/
def utf8 (s : String) : List UInt8 := s.toList.flatMap String.utf8EncodeChar

/-- How many bytes the characters take in UTF-8. -/
def byteLength : List Char → Nat
  | [] => 0
  | c :: rest => c.utf8Size + byteLength rest

/-- The byte length of a text is the number of its bytes. -/
@[simp] theorem length_utf8 (s : String) : (utf8 s).length = byteLength s.toList := by
  unfold utf8
  induction s.toList with
  | nil => rfl
  | cons c rest ih => simp [byteLength, ih]

end LayeredConfig.Text
