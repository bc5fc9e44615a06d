import LayeredConfig.Proofs.Leaf.Codec
import LayeredConfig.Proofs.Text.Blank
import LayeredConfig.Proofs.Text.Pieces

/-
  Leaves and plain text. The decimal digits of an integer are read as that integer
  (`parseNumber_toString`), so every number of 64 bits is read back from its display text, and texts
  and flags are as well (`parse?_display`). A list is read from items with commas between them. What
  can be read are lists of items without commas and without blanks at their ends
  (`isItem_of_mem_parseList`), and just these are read back (`parseList_join_iff`).
-/

namespace LayeredConfig.Leaf

open Text (Trimmed isBlank)

/-! ## Numbers -/

@[simp] theorem digitsValue_toDigits (n : Nat) : Numeral.digitsValue (Nat.toDigits 10 n) = n :=
  Nat.ofDigitChars_ten_toDigits

theorem isDigit_of_mem_toDigits {n : Nat} {c : Char} (h : c ∈ Nat.toDigits 10 n) :
    c.isDigit = true :=
  Nat.isDigit_of_mem_toDigits (by decide) (by decide) h

theorem isBlank_of_isDigit {c : Char} (h : c.isDigit = true) : isBlank c = false := by
  have hrange : 48 ≤ c.toNat ∧ c.toNat ≤ 57 := by
    simpa [Char.isDigit, UInt32.le_iff_toNat_le] using h
  simp [isBlank]
  omega

/-- Digits begin with no sign. -/
theorem takeSign_of_digits {ds : List Char} (h : ∀ c ∈ ds, c.isDigit = true) :
    Numeral.takeSign ds = (false, ds) := by
  unfold Numeral.takeSign
  split
  · exact absurd (h '-' List.mem_cons_self) (by decide)
  · exact absurd (h '+' List.mem_cons_self) (by decide)
  · rfl

/-- What is read from the digits of a natural number behind a sign or none. -/
theorem parseNumber_of_takeSign {s : List Char} {negative : Bool} {n : Nat}
    (h : Numeral.takeSign s = (negative, Nat.toDigits 10 n)) :
    parseNumber s = int64? (if negative then -(n : Int) else n) := by
  have hdigits : (Nat.toDigits 10 n).all Char.isDigit = true :=
    List.all_eq_true.mpr fun c hc => isDigit_of_mem_toDigits hc
  have hne : (Nat.toDigits 10 n).isEmpty = false := by simp [Nat.toDigits_ne_nil]
  simp only [parseNumber, h, hdigits, hne, digitsValue_toDigits]
  rfl

theorem toList_toString_ofNat (n : Nat) :
    (toString (Int.ofNat n)).toList = Nat.toDigits 10 n := Nat.toList_repr

theorem toList_toString_negSucc (n : Nat) :
    (toString (Int.negSucc n)).toList = '-' :: Nat.toDigits 10 (n + 1) := by
  rw [Int.toString_eq_repr, Int.repr, String.toList_append, Nat.toList_repr]
  rfl

/-- The decimal digits of an integer are read as that integer, if it has 64 bits. -/
theorem parseNumber_toString (i : Int) : parseNumber (toString i).toList = int64? i := by
  cases i with
  | ofNat n =>
    have hsign : Numeral.takeSign (Nat.toDigits 10 n) = (false, Nat.toDigits 10 n) :=
      takeSign_of_digits fun c hc => isDigit_of_mem_toDigits hc
    rw [toList_toString_ofNat, parseNumber_of_takeSign hsign]
    rfl
  | negSucc n =>
    have hsign : Numeral.takeSign ('-' :: Nat.toDigits 10 (n + 1)) =
        (true, Nat.toDigits 10 (n + 1)) := rfl
    rw [toList_toString_negSucc, parseNumber_of_takeSign hsign]
    rfl

theorem trimmed_toString (i : Int) : Trimmed (toString i).toList := by
  apply Text.trimmed_of_forall
  intro c hc
  cases i with
  | ofNat n =>
    rw [toList_toString_ofNat] at hc
    exact isBlank_of_isDigit (isDigit_of_mem_toDigits hc)
  | negSucc n =>
    rw [toList_toString_negSucc] at hc
    rcases List.mem_cons.mp hc with rfl | hdigit
    · decide
    · exact isBlank_of_isDigit (isDigit_of_mem_toDigits hdigit)

/-! ## Display texts -/

@[simp] theorem parseFlag_boolText (b : Bool) : parseFlag (boolText b) = some b := by
  cases b <;> decide +kernel

/-- A leaf that is no list is read back from its display text. -/
theorem parse?_display {leaf : Leaf} (h : leaf.kind ≠ .textList) :
    parse? leaf.kind leaf.display = some leaf := by
  cases leaf with
  | text s => rfl
  | flag b => rw [kind, parse?, display, parseFlag_boolText]; rfl
  | number n =>
    rw [kind, parse?, display, Text.trimChars_of_trimmed (trimmed_toString _),
      parseNumber_toString, int64?_toInt]
    rfl
  | textList items => exact absurd rfl h

/-! ## Lists -/

/-- An item that a list can have when it is written with commas: some text without a comma and
without blanks at its ends. -/
structure IsItem (s : String) : Prop where
  ne_empty : s ≠ ""
  comma_notMem : ',' ∉ s.toList
  trimmed : Trimmed s.toList

variable {items : List String}

theorem IsItem.trim_eq {s : String} (h : IsItem s) : Text.trim s = s := by
  rw [Text.trim, Text.trimChars_of_trimmed h.trimmed, String.ofList_toList]

/-- Only such items are read from a text. -/
theorem isItem_of_mem_parseList {text item : String} (h : item ∈ parseList text) :
    IsItem item := by
  obtain ⟨hmem, hne⟩ := List.mem_filter.mp h
  obtain ⟨piece, hpiece, rfl⟩ := List.mem_map.mp hmem
  have hcomma : ',' ∉ piece.toList := Text.not_mem_of_mem_split hpiece
  constructor
  · simpa using hne
  · rw [Text.trim, String.toList_ofList]
    exact fun hin => hcomma ((Text.trimChars_infix piece.toList).subset hin)
  · rw [Text.trim, String.toList_ofList]
    exact Text.trimmed_trimChars piece.toList

/-- Such items are read back. -/
theorem parseList_join (h : ∀ item ∈ items, IsItem item) :
    parseList (Text.join "," items) = items := by
  by_cases hnil : items = []
  · subst hnil
    decide
  · have htrim : items.map Text.trim = items := by
      rw [List.map_congr_left fun item hitem => (h item hitem).trim_eq, List.map_id']
    rw [parseList, Text.split_join rfl hnil fun item hitem => (h item hitem).comma_notMem, htrim,
      List.filter_eq_self]
    intro item hitem
    simpa using (h item hitem).ne_empty

theorem parseList_join_iff :
    parseList (Text.join "," items) = items ↔ ∀ item ∈ items, IsItem item := by
  constructor
  · intro h item hitem
    rw [← h] at hitem
    exact isItem_of_mem_parseList hitem
  · exact parseList_join

/-- A leaf is read back from its value tree, and from its display text when it is no list. A list is
read back from its items with commas between them exactly when these are proper items, and every
text is read as such a list. -/
theorem leaves_read_back :
    (∀ leaf : Leaf, ofValue? leaf.kind leaf.toValue = some leaf) ∧
      (∀ leaf : Leaf, leaf.kind ≠ .textList → parse? leaf.kind leaf.display = some leaf) ∧
      (∀ items, parse? .textList (Text.join "," items) = some (.textList items) ↔
        ∀ item ∈ items, IsItem item) ∧
      ∀ text, ∃ items, parse? .textList text = some (.textList items) ∧
        (∀ item ∈ items, IsItem item) ∧
        parse? .textList (Text.join "," items) = some (.textList items) := by
  have hread : ∀ items, parse? .textList (Text.join "," items) = some (.textList items) ↔
      ∀ item ∈ items, IsItem item := by
    intro items
    rw [← parseList_join_iff, parse?, Option.some.injEq, Leaf.textList.injEq]
  refine ⟨ofValue?_toValue, fun leaf h => parse?_display h, hread, fun text => ?_⟩
  have hitems : ∀ item ∈ parseList text, IsItem item := fun item => isItem_of_mem_parseList
  exact ⟨parseList text, rfl, hitems, (hread _).mpr hitems⟩

/-- The smallest number, whose opposite is no number of 64 bits. -/
theorem leaves_read_back_smallest :
    (Leaf.number Int64.minValue).kind ≠ .textList ∧
      (Leaf.number Int64.minValue).display = "-9223372036854775808" ∧
      parse? .number (Leaf.number Int64.minValue).display = some (.number Int64.minValue) := by
  have hkind : (Leaf.number Int64.minValue).kind ≠ .textList := by decide
  exact ⟨hkind, by decide, leaves_read_back.2.1 (.number Int64.minValue) hkind⟩

end LayeredConfig.Leaf
