import LayeredConfig.Proofs.Text.Pieces
import LayeredConfig.Text.Words

/-
  Where words of identifiers end. A character that is no letter or digit ends a word wherever it
  stands (`words_append`), so the words of a text are those of its pieces between two such
  characters (`words_eq_flatMap`). Among letters and digits only a capital makes a new word
  (`caseWords_of_no_capital`). The words of a text in snake case are therefore its pieces between
  underscores, and in capitals it is written character by character (`upperSnake_of_lowerWords`).
-/

namespace LayeredConfig.Text

variable {s : List Char} {sep : Char}

/-! ## Between words -/

/-- A letter or digit continues the current run. -/
theorem go_cons_of_alphanumeric {c : Char} (hc : isAlphanumeric c = true) (run rest : List Char) :
    alphanumericRunsOf.go run (c :: rest) = alphanumericRunsOf.go (c :: run) rest := by
  rw [alphanumericRunsOf.go, if_pos hc]

/-- Any other character ends it. -/
theorem go_cons_of_separator (hsep : isAlphanumeric sep = false) (run rest : List Char) :
    alphanumericRunsOf.go run (sep :: rest) =
      alphanumericRunsOf.go run [] ++ alphanumericRunsOf.go [] rest := by
  cases run <;> simp [alphanumericRunsOf.go, hsep]

/-- What stands before a separator and what stands after it have runs of their own. -/
theorem go_append (hsep : isAlphanumeric sep = false) (run s t : List Char) :
    alphanumericRunsOf.go run (s ++ sep :: t) =
      alphanumericRunsOf.go run s ++ alphanumericRunsOf.go [] t := by
  induction s generalizing run with
  | nil => exact go_cons_of_separator hsep run t
  | cons c rest ih =>
    rw [List.cons_append]
    cases hc : isAlphanumeric c with
    | true => rw [go_cons_of_alphanumeric hc, go_cons_of_alphanumeric hc, ih]
    | false => rw [go_cons_of_separator hc, go_cons_of_separator hc, ih, List.append_assoc]

theorem go_of_alphanumeric (h : ∀ c ∈ s, isAlphanumeric c = true) (run : List Char) :
    alphanumericRunsOf.go run s = alphanumericRunsOf.go (s.reverse ++ run) [] := by
  induction s generalizing run with
  | nil => rfl
  | cons c rest ih =>
    rw [List.forall_mem_cons] at h
    rw [go_cons_of_alphanumeric h.1, ih h.2, List.reverse_cons, List.append_assoc,
      List.singleton_append]

/-- Letters and digits only are one run. -/
theorem alphanumericRunsOf_of_alphanumeric (hne : s ≠ [])
    (h : ∀ c ∈ s, isAlphanumeric c = true) : alphanumericRunsOf s = [s] := by
  rw [alphanumericRunsOf, go_of_alphanumeric h, alphanumericRunsOf.go, List.append_nil,
    List.reverse_reverse, if_neg (by simpa using hne)]

/-- A character that is no letter or digit ends a word. -/
theorem words_append (hsep : isAlphanumeric sep = false) (s t : List Char) :
    words (s ++ sep :: t) = words s ++ words t := by
  rw [words, alphanumericRunsOf, go_append hsep, List.flatMap_append]
  rfl

theorem words_joinChars (hsep : isAlphanumeric sep = false) (pieces : List (List Char)) :
    words (joinChars [sep] pieces) = pieces.flatMap words := by
  induction pieces with
  | nil => rfl
  | cons piece more ih =>
    cases more with
    | nil => exact (List.append_nil _).symm
    | cons next others =>
      rw [joinChars_cons _ _ (List.cons_ne_nil next others), List.append_assoc,
        List.singleton_append, words_append hsep, ih]
      rfl

/-- The words of a text are those of its pieces. -/
theorem words_eq_flatMap (hsep : isAlphanumeric sep = false) (s : List Char) :
    words s = (splitChars sep s).flatMap words := by
  rw [← words_joinChars hsep, joinChars_splitChars]

/-! ## Inside words -/

/-- Where no capital comes, the current word goes on to the end. -/
theorem caseWords_of_no_capital (h : ∀ c ∈ s, isUppercase c = false) (mode : LetterCase)
    (word : List Char) (hne : word.reverse ++ s ≠ []) :
    caseWords mode word s = [word.reverse ++ s] := by
  induction s generalizing mode word with
  | nil =>
    rw [List.append_nil] at hne ⊢
    rw [caseWords, if_neg (by simpa using hne)]
  | cons c rest ih =>
    rw [List.forall_mem_cons] at h
    have hword : word.reverse ++ c :: rest = (c :: word).reverse ++ rest := by simp
    rw [hword] at hne ⊢
    cases rest with
    | nil => rw [caseWords, List.append_nil]
    | cons next others =>
      -- a word ends before a capital or before the capital in front of a small letter
      have hnext : isUppercase next = false := h.2 next List.mem_cons_self
      rw [caseWords, if_neg (by simp [hnext]), if_neg (by simp [h.1]), ih h.2 _ _ hne]

/-! ## Snake case -/

/-- A letter `a` to `z` or a digit. -/
def isLowerWordChar (c : Char) : Bool := c.isLower || c.isDigit

/-- A word in lower case: letters `a` to `z` and digits, one at least. -/
def LowerWord (w : List Char) : Prop := w ≠ [] ∧ ∀ c ∈ w, isLowerWordChar c = true

instance (w : List Char) : Decidable (LowerWord w) :=
  decidable_of_iff (w ≠ [] ∧ w.all isLowerWordChar = true) (by rw [LowerWord, List.all_eq_true])

/-- A property of the characters of words in lower case can be checked one code point after
another. -/
theorem forall_isLowerWordChar {P : Char → Prop}
    (h : ∀ n < 128, isLowerWordChar (Char.ofNat n) = true → P (Char.ofNat n)) {c : Char}
    (hc : isLowerWordChar c = true) : P c := by
  have hlt : c.toNat < 128 := by
    rcases (Bool.or_eq_true _ _).mp hc with hlower | hdigit
    · have hz : c.val ≤ 'z'.val := of_decide_eq_true ((Bool.and_eq_true _ _).mp hlower).2
      exact Nat.lt_of_le_of_lt (UInt32.le_iff_toNat_le.mp hz) (by decide)
    · have h9 : c.val ≤ '9'.val := of_decide_eq_true ((Bool.and_eq_true _ _).mp hdigit).2
      exact Nat.lt_of_le_of_lt (UInt32.le_iff_toNat_le.mp h9) (by decide)
  have hp := h c.toNat hlt
  rw [Char.ofNat_toNat] at hp
  exact hp hc

theorem isAlphanumeric_of_isLowerWordChar {c : Char} (hc : isLowerWordChar c = true) :
    isAlphanumeric c = true :=
  forall_isLowerWordChar (P := fun c => isAlphanumeric c = true) (by decide +kernel) hc

theorem isUppercase_of_isLowerWordChar {c : Char} (hc : isLowerWordChar c = true) :
    isUppercase c = false :=
  forall_isLowerWordChar (P := fun c => isUppercase c = false) (by decide +kernel) hc

theorem upperOf_of_isLowerWordChar {c : Char} (hc : isLowerWordChar c = true) :
    upperOf c = [c.toUpper] :=
  forall_isLowerWordChar (P := fun c => upperOf c = [c.toUpper]) (by decide +kernel) hc

/-- A word in lower case is not divided. -/
theorem words_of_lowerWord (h : LowerWord s) : words s = [s] := by
  have hruns : alphanumericRunsOf s = [s] := alphanumericRunsOf_of_alphanumeric h.1
    fun c hc => isAlphanumeric_of_isLowerWordChar (h.2 c hc)
  rw [words, hruns, List.flatMap_singleton]
  have hsmall : ∀ c ∈ s, isUppercase c = false :=
    fun c hc => isUppercase_of_isLowerWordChar (h.2 c hc)
  exact caseWords_of_no_capital hsmall .none [] h.1

/-- Pieces that are words in lower case are the words of the text. -/
theorem words_of_lowerWords (hsep : isAlphanumeric sep = false)
    (h : ∀ piece ∈ splitChars sep s, LowerWord piece) : words s = splitChars sep s := by
  rw [words_eq_flatMap hsep, List.flatMap_def,
    List.map_congr_left fun piece hpiece => words_of_lowerWord (h piece hpiece),
    ← List.flatMap_def]
  exact List.flatMap_singleton' _

/-- A text in snake case is written in capitals character by character. -/
theorem upperSnake_of_lowerWords {text : String}
    (h : ∀ piece ∈ splitChars '_' text.toList, LowerWord piece) :
    upperSnake text = text.map Char.toUpper := by
  have hcapitals : ∀ piece ∈ splitChars '_' text.toList,
      piece.flatMap upperOf = piece.map Char.toUpper := by
    intro piece hpiece
    rw [List.map_eq_flatMap, List.flatMap_def, List.flatMap_def]
    exact congrArg List.flatten (List.map_congr_left fun c hc =>
      upperOf_of_isLowerWordChar ((h piece hpiece).2 c hc))
  have hsep : isAlphanumeric '_' = false := by decide +kernel
  rw [← String.toList_inj, String.toList_map, upperSnake, String.toList_ofList]
  calc joinChars ['_'] ((words text.toList).map fun word => word.flatMap upperOf)
      = joinChars ['_'] ((splitChars '_' text.toList).map (List.map Char.toUpper)) := by
        rw [words_of_lowerWords hsep h, List.map_congr_left hcapitals]
    _ = (joinChars ['_'] (splitChars '_' text.toList)).map Char.toUpper :=
        (map_joinChars Char.toUpper ['_'] _).symm
    _ = text.toList.map Char.toUpper := by rw [joinChars_splitChars]

end LayeredConfig.Text
