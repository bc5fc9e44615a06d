import LayeredConfig.Text.Search
import LayeredConfig.Text.Split

/-
  Splitting and joining are inverse on pieces without the separator. `split_join` reads joined
  pieces back, `join_split` writes a text again from its pieces, and `not_mem_of_mem_split` says
  that splitting gives pieces without separator. `splitChars_append` and `join_append` cut a text at
  any one separator, `map_joinChars` maps a text piece by piece, `length_splitChars` counts the
  pieces, and `dropStart?_eq_some` cuts off a beginning.
-/

namespace LayeredConfig.Text

/-- A text without separator is its only piece. -/
theorem splitChars_of_not_mem {sep : Char} {s : List Char} (h : sep ∉ s) :
    splitChars sep s = [s] := by
  rw [splitChars_eq_splitOn, List.splitOn_eq_singleton h]

/-- The pieces of a text are those before and those after one of its separators. -/
theorem splitChars_append (sep : Char) (s t : List Char) :
    splitChars sep (s ++ sep :: t) = splitChars sep s ++ splitChars sep t := by
  simp only [splitChars_eq_splitOn, List.splitOn_append_cons_self]

theorem joinChars_cons (sep piece : List Char) {more : List (List Char)} (h : more ≠ []) :
    joinChars sep (piece :: more) = piece ++ sep ++ joinChars sep more := by
  rw [joinChars_eq_intercalate, List.intercalate_cons_of_ne_nil h, joinChars_eq_intercalate]

/-- Joined pieces without separator are read back. -/
theorem splitChars_joinChars {sep : Char} {pieces : List (List Char)} (hne : pieces ≠ [])
    (h : ∀ piece ∈ pieces, sep ∉ piece) : splitChars sep (joinChars [sep] pieces) = pieces := by
  rw [joinChars_eq_intercalate, splitChars_eq_splitOn, List.splitOn_intercalate sep h hne]

/-- No piece holds the separator. -/
theorem not_mem_of_mem_splitChars {sep : Char} {s piece : List Char}
    (h : piece ∈ splitChars sep s) : sep ∉ piece := by
  induction s generalizing piece with
  | nil =>
    rw [splitChars, List.mem_singleton] at h
    rw [h]
    exact List.not_mem_nil
  | cons c rest ih =>
    rw [splitChars] at h
    split at h
    · rcases List.mem_cons.mp h with rfl | h
      · exact List.not_mem_nil
      · exact ih h
    · next hc =>
      cases hs : splitChars sep rest with
      | nil => exact absurd hs (splitChars_ne_nil sep rest)
      | cons first more =>
        rw [hs] at h ih
        rcases List.mem_cons.mp h with rfl | h
        · rw [List.mem_cons, not_or]
          exact ⟨Ne.symm hc, ih List.mem_cons_self⟩
        · exact ih (List.mem_cons_of_mem _ h)

/-- A text is mapped piece by piece. -/
theorem map_joinChars (f : Char → Char) (sep : List Char) (pieces : List (List Char)) :
    (joinChars sep pieces).map f = joinChars (sep.map f) (pieces.map (List.map f)) := by
  induction pieces with
  | nil => rfl
  | cons piece more ih =>
    cases more with
    | nil => rfl
    | cons next others =>
      rw [joinChars_cons _ _ (List.cons_ne_nil next others), List.map_append, List.map_append, ih]
      rfl

/-- Joining two lists of pieces puts one separator between the two texts. -/
theorem joinChars_append (sep : List Char) {pieces more : List (List Char)} (hp : pieces ≠ [])
    (hm : more ≠ []) :
    joinChars sep (pieces ++ more) = joinChars sep pieces ++ sep ++ joinChars sep more := by
  induction pieces with
  | nil => exact absurd rfl hp
  | cons piece rest ih =>
    cases rest with
    | nil => exact joinChars_cons sep piece hm
    | cons second others =>
      have hrest := ih (List.cons_ne_nil second others)
      have hne : second :: others ++ more ≠ [] := List.cons_ne_nil second (others ++ more)
      rw [List.cons_append, joinChars_cons sep piece hne,
        joinChars_cons sep piece (List.cons_ne_nil second others), hrest]
      simp only [List.append_assoc]

theorem split_ne_nil (sep : Char) (s : String) : split sep s ≠ [] := by
  unfold split
  rw [ne_eq, List.map_eq_nil_iff]
  exact splitChars_ne_nil sep s.toList

/-- No piece of a text holds the separator. -/
theorem not_mem_of_mem_split {sep : Char} {s piece : String} (h : piece ∈ split sep s) :
    sep ∉ piece.toList := by
  obtain ⟨chars, hchars, rfl⟩ := List.mem_map.mp h
  rw [String.toList_ofList]
  exact not_mem_of_mem_splitChars hchars

/-- Joined pieces without separator are read back. -/
theorem split_join {sep : Char} {text : String} (ht : text.toList = [sep]) {pieces : List String}
    (hne : pieces ≠ []) (h : ∀ piece ∈ pieces, sep ∉ piece.toList) :
    split sep (join text pieces) = pieces := by
  unfold split join
  rw [String.toList_ofList, ht, splitChars_joinChars, List.map_map]
  · simp
  · simpa using hne
  · intro chars hchars
    obtain ⟨piece, hpiece, rfl⟩ := List.mem_map.mp hchars
    exact h piece hpiece

/-- A text is written again from its pieces. -/
theorem join_split {sep : Char} {text : String} (ht : text.toList = [sep]) (s : String) :
    join text (split sep s) = s := by
  have hid : String.toList ∘ String.ofList = id := funext fun chars => String.toList_ofList
  rw [join, split, ht, List.map_map, hid, List.map_id, joinChars_splitChars, String.ofList_toList]

/-- The pieces of two texts with a separator between them are those of both. -/
theorem split_append {sep : Char} {text : String} (ht : text.toList = [sep]) (s t : String) :
    split sep (s ++ text ++ t) = split sep s ++ split sep t := by
  have hchars : (s ++ text ++ t).toList = s.toList ++ sep :: t.toList := by
    rw [String.toList_append, String.toList_append, ht, List.append_assoc, List.singleton_append]
  rw [split, hchars, splitChars_append, List.map_append]
  rfl

theorem split_of_not_mem {sep : Char} {s : String} (h : sep ∉ s.toList) : split sep s = [s] := by
  rw [split, splitChars_of_not_mem h, List.map_singleton, String.ofList_toList]

/-- There is one piece more than there are separators. -/
@[simp] theorem length_splitChars (sep : Char) (s : List Char) :
    (splitChars sep s).length = s.count sep + 1 := by
  induction s with
  | nil => rfl
  | cons c rest ih =>
    rw [splitChars, List.count_cons]
    split
    · next heq => simp [ih, heq]
    · next hne =>
      cases hs : splitChars sep rest with
      | nil => exact absurd hs (splitChars_ne_nil sep rest)
      | cons piece more =>
        rw [hs] at ih
        simpa [hne] using ih

theorem join_append (text : String) {pieces more : List String} (hp : pieces ≠ [])
    (hm : more ≠ []) : join text (pieces ++ more) = join text pieces ++ text ++ join text more := by
  rw [← String.toList_inj, String.toList_append, String.toList_append]
  simp only [join, String.toList_ofList, List.map_append]
  exact joinChars_append _ (by simpa using hp) (by simpa using hm)

@[simp] theorem toList_replaceChar (old new : Char) (s : String) :
    (replaceChar old new s).toList = s.toList.map fun c => if c = old then new else c := by
  rw [replaceChar, String.toList_ofList]

theorem dropStart?_eq_some {start s rest : List Char} :
    dropStart? start s = some rest ↔ s = start ++ rest := by
  unfold dropStart?
  split
  · next h =>
    obtain ⟨more, rfl⟩ := List.isPrefixOf_iff_prefix.mp h
    simp
  · next h =>
    constructor
    · intro hnone
      cases hnone
    · rintro rfl
      exact absurd (List.isPrefixOf_iff_prefix.mpr (List.prefix_append _ _)) h

end LayeredConfig.Text
