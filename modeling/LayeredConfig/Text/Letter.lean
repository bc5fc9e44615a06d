import LayeredConfig.Text.Letter.Table

/-
  Letters and digits. A name is split into words at characters that are neither, and where the
  case of its letters changes.
-/

namespace LayeredConfig.Text

/-- A letter or a digit of any script. -/
def isAlphanumeric (c : Char) : Bool := inRuns alphanumericRuns c

/-- An upper-case letter. -/
def isUppercase (c : Char) : Bool := inRuns uppercaseRuns c

/-- A lower-case letter. -/
def isLowercase (c : Char) : Bool := inRuns lowercaseRuns c

end LayeredConfig.Text
