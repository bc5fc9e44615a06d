/-
  Searching texts for a beginning or a part.
-/

namespace LayeredConfig.Text

/-- `part` occurs in the characters. -/
def containsChars (part : List Char) : List Char → Bool
  | [] => part.isEmpty
  | c :: rest => part.isPrefixOf (c :: rest) || containsChars part rest

/-- `part` occurs in the text. -/
def contains (s part : String) : Bool := containsChars part.toList s.toList

/-- The text begins with `start`. -/
def startsWith (s start : String) : Bool := start.toList.isPrefixOf s.toList

/-- The rest of a text after `start`, if it begins so. -/
def dropStart? (start : List Char) (s : List Char) : Option (List Char) :=
  if start.isPrefixOf s then some (s.drop start.length) else none

/-- A text with one character replaced by another. -/
def replaceChar (old new : Char) (s : String) : String :=
  String.ofList (s.toList.map fun c => if c = old then new else c)

end LayeredConfig.Text
