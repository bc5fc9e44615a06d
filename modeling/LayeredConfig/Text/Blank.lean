/-
  Blank characters: the White_Space property of Unicode. Trimming removes them at both ends of
  a text and leaves those inside.
-/

namespace LayeredConfig.Text

/-- The character is white space: tab to carriage return, space, next line, no-break space,
and the spaces and separators above Latin-1. -/
def isBlank (c : Char) : Bool :=
  let n := c.toNat
  (9 ≤ n && n ≤ 13) || n == 0x20 || n == 0x85 || n == 0xA0 || n == 0x1680 ||
    (0x2000 ≤ n && n ≤ 0x200A) || n == 0x2028 || n == 0x2029 || n == 0x202F || n == 0x205F ||
    n == 0x3000

/-- The text without blanks at its end. -/
def trimRight (s : List Char) : List Char := (s.reverse.dropWhile isBlank).reverse

/-- The text without blanks at either end. -/
def trimChars (s : List Char) : List Char := trimRight (s.dropWhile isBlank)

/-- `trimChars` on strings. -/
def trim (s : String) : String := String.ofList (trimChars s.toList)

/-- The text is empty or holds blanks only. -/
def isBlankText (s : String) : Bool := s.toList.all isBlank

end LayeredConfig.Text
