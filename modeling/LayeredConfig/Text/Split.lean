/-
  Splitting a text at every occurrence of one character, and joining pieces back. The pieces
  of a text are never an empty list, and joining them with the same character gives the text. Both
  are functions of the library on lists of characters (`splitChars_eq_splitOn`,
  `joinChars_eq_intercalate`).
-/

namespace LayeredConfig.Text

/-- The pieces of a text between the occurrences of `sep`, empty ones included. -/
def splitChars (sep : Char) : List Char → List (List Char)
  | [] => [[]]
  | c :: rest =>
    if c = sep then [] :: splitChars sep rest
    else
      match splitChars sep rest with
      | [] => [[c]]
      | piece :: more => (c :: piece) :: more

/-- The pieces of a text, with a separator between each two. -/
def joinChars (sep : List Char) : List (List Char) → List Char
  | [] => []
  | [piece] => piece
  | piece :: more => piece ++ sep ++ joinChars sep more

/-- `splitChars` on strings. -/
def split (sep : Char) (s : String) : List String :=
  (splitChars sep s.toList).map String.ofList

/-- The texts one after another with `sep` between each two. -/
def join (sep : String) (pieces : List String) : String :=
  String.ofList (joinChars sep.toList (pieces.map String.toList))

/-- The pieces are those of the library's splitting. -/
theorem splitChars_eq_splitOn (sep : Char) (s : List Char) : splitChars sep s = s.splitOn sep := by
  induction s with
  | nil => rfl
  | cons c rest ih =>
    simp only [splitChars, ih, List.splitOn_cons_eq_if_modifyHead, beq_iff_eq]
    cases hs : rest.splitOn sep with
    | nil => exact absurd hs (List.splitOn_ne_nil sep rest)
    | cons piece more => rfl

/-- Joining puts the separator between the pieces as the library does. -/
theorem joinChars_eq_intercalate (sep : List Char) (pieces : List (List Char)) :
    joinChars sep pieces = sep.intercalate pieces := by
  induction pieces with
  | nil => rfl
  | cons piece more ih =>
    cases more with
    | nil => exact List.intercalate_singleton.symm
    | cons next others =>
      rw [List.intercalate_cons_cons, ← ih]
      rfl

/-- Every text has a piece. -/
@[simp] theorem splitChars_ne_nil (sep : Char) (s : List Char) : splitChars sep s ≠ [] := by
  rw [splitChars_eq_splitOn]
  exact List.splitOn_ne_nil sep s

/-- Joining the pieces of a text with the separator gives the text back. -/
@[simp] theorem joinChars_splitChars (sep : Char) (s : List Char) :
    joinChars [sep] (splitChars sep s) = s := by
  rw [splitChars_eq_splitOn, joinChars_eq_intercalate]
  exact List.intercalate_splitOn sep

end LayeredConfig.Text
