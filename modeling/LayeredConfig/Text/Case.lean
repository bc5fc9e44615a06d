import LayeredConfig.Text.Case.Table
import LayeredConfig.Text.Letter.Table

/-
  Upper and lower case of whole texts. A character maps to one or more characters; the capital
  sigma is the only one whose lower case depends on its neighbours.
-/

namespace LayeredConfig.Text

/-- The character that a table of shifts gives for a code point. -/
def shifted (n : Nat) : List CaseRun → Option Nat
  | [] => none
  | row :: rest =>
    if n < row.run.first then none
    else if row.run.holds n then some (Int.ofNat n + row.shift).toNat
    else shifted n rest

/-- The mapping of one character: an expansion, a shift, or the character itself. -/
def mapCase (shifts : List CaseRun) (expansions : List (Nat × List Nat)) (c : Char) : List Char :=
  match shifted c.toNat shifts with
  | some n => [Char.ofNat n]
  | none =>
    match expansions.lookup c.toNat with
    | some ns => ns.map Char.ofNat
    | none => [c]

/-- The upper case of one character. -/
def upperOf (c : Char) : List Char := mapCase upperShifts upperExpansions c

/-- The lower case of one character that stands alone. -/
def lowerOf (c : Char) : List Char := mapCase lowerShifts lowerExpansions c

/-- Past the characters that case rules ignore, the next one has case. -/
def meetsCased (s : List Char) : Bool :=
  match s.dropWhile (inRuns caseIgnorableRuns) with
  | [] => false
  | c :: _ => inRuns casedRuns c

/-- The lower case of a text whose earlier characters are `before`, last one first. A capital
sigma that ends a word becomes a final sigma. -/
def lowerFrom (before : List Char) : List Char → List Char
  | [] => []
  | c :: rest =>
    let mapped :=
      if c = 'Σ' then
        if meetsCased before && !meetsCased rest then ['ς'] else ['σ']
      else lowerOf c
    mapped ++ lowerFrom (c :: before) rest

/-- The lower case of a text. -/
def toLower (s : String) : String := String.ofList (lowerFrom [] s.toList)

end LayeredConfig.Text
