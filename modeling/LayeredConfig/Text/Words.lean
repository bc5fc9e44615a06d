import LayeredConfig.Text.Case
import LayeredConfig.Text.Letter
import LayeredConfig.Text.Split

/-
  Words of an identifier, and the identifier written in capitals with underscores. Words end at
  every character that is no letter or digit, between a lower-case and an upper-case letter,
  and before the last capital of a run that a lower-case letter follows. A digit keeps the case
  of the letter before it.
-/

namespace LayeredConfig.Text

/-- The case of the last letter of the current word. -/
inductive LetterCase where
  | none
  | lower
  | upper
  deriving Repr, DecidableEq

/-- The case after reading one more character. -/
def LetterCase.after (mode : LetterCase) (c : Char) : LetterCase :=
  if isLowercase c then .lower else if isUppercase c then .upper else mode

/-- The words of a run of letters and digits. `word` is the current word, last character first,
and `mode` the case of its last letter. -/
def caseWords (mode : LetterCase) (word : List Char) : List Char → List (List Char)
  | [] => if word.isEmpty then [] else [word.reverse]
  | [c] => [(c :: word).reverse]
  | c :: next :: rest =>
    let reached := mode.after c
    if reached = .lower ∧ isUppercase next then
      (c :: word).reverse :: caseWords .none [] (next :: rest)
    else if mode = .upper ∧ isUppercase c ∧ isLowercase next then
      word.reverse :: caseWords .none [c] (next :: rest)
    else caseWords reached (c :: word) (next :: rest)

/-- The runs of letters and digits of a text. -/
def alphanumericRunsOf (s : List Char) : List (List Char) :=
  go [] s
where
  /-- `run` is the current run, last character first. -/
  go (run : List Char) : List Char → List (List Char)
    | [] => if run.isEmpty then [] else [run.reverse]
    | c :: rest =>
      if isAlphanumeric c then go (c :: run) rest
      else if run.isEmpty then go [] rest
      else run.reverse :: go [] rest

/-- The words of an identifier. -/
def words (s : List Char) : List (List Char) :=
  (alphanumericRunsOf s).flatMap (caseWords .none [])

/-- The words of an identifier in capitals, joined by underscores. -/
def upperSnake (s : String) : String :=
  String.ofList (joinChars ['_'] ((words s.toList).map fun word => word.flatMap upperOf))

end LayeredConfig.Text
