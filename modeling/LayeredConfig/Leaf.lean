import LayeredConfig.Text.Blank
import LayeredConfig.Text.Case
import LayeredConfig.Text.Split
import LayeredConfig.Value

/-
  Leaf values of a configuration: a text, a flag, a number or a list of texts. A leaf is read
  from a value tree by its kind, or from plain text such as an environment variable.
-/

namespace LayeredConfig

/-- What a configuration field holds. -/
inductive Kind where
  | text
  | flag
  | number
  | textList
  | record
  deriving Repr, DecidableEq

/-- The name of a kind in messages and reports. -/
def Kind.name : Kind → String
  | .text => "string"
  | .flag => "bool"
  | .number => "int"
  | .textList => "string_list"
  | .record => "record"

/-- The value of a field that is no record. -/
inductive Leaf where
  | text (s : String)
  | flag (b : Bool)
  | number (n : Int64)
  | textList (items : List String)
  deriving Repr, DecidableEq

/-- The 64-bit number of an integer in range. -/
def int64? (n : Int) : Option Int64 :=
  if Int64.minValue.toInt ≤ n ∧ n ≤ Int64.maxValue.toInt then some (Int64.ofInt n) else none

/-- The word for a truth value. -/
def boolText (b : Bool) : String := if b then "true" else "false"

namespace Leaf

/-- The kind of a leaf. No leaf is a record. -/
def kind : Leaf → Kind
  | .text _ => .text
  | .flag _ => .flag
  | .number _ => .number
  | .textList _ => .textList

/-- The value that counts as unset. Records have none. -/
def zero? : Kind → Option Leaf
  | .text => some (.text "")
  | .flag => some (.flag false)
  | .number => some (.number 0)
  | .textList => some (.textList [])
  | .record => none

/-- The empty text, false, zero, or the empty list. -/
def isZero : Leaf → Bool
  | .text s => s.isEmpty
  | .flag b => !b
  | .number n => n == 0
  | .textList items => items.isEmpty

/-- Reads a node of a value tree as a leaf of the given kind. Where a text is wanted, numbers and
booleans give their text. Null is no value. -/
def ofValue? : Kind → Value → Option Leaf
  | .text, v => v.scalarText?.map .text
  | .flag, .bool b => some (.flag b)
  | .number, .int n => (int64? n).map .number
  | .textList, .array items => (items.mapM Value.scalarText?).map .textList
  | _, _ => none

/-- Reads a node, where a missing node or null gives the zero value. -/
def ofNode? (kind : Kind) : Option Value → Option Leaf
  | none | some .null => zero? kind
  | some v => ofValue? kind v

/-- The value tree of a leaf. -/
def toValue : Leaf → Value
  | .text s => .string s
  | .flag b => .bool b
  | .number n => .int n.toInt
  | .textList items => .array (items.map .string)

/-- A decimal integer with an optional sign, in the range of 64-bit numbers. -/
def parseNumber (s : List Char) : Option Int64 :=
  let (negative, digits) := Numeral.takeSign s
  if digits.isEmpty || !digits.all Char.isDigit then none
  else
    let n : Int := Numeral.digitsValue digits
    int64? (if negative then -n else n)

/-- The words for true and false that plain text may use. -/
def parseFlag (s : String) : Option Bool :=
  let word := Text.toLower (Text.trim s)
  if word ∈ ["true", "1", "yes", "on"] then some true
  else if word ∈ ["false", "0", "no", "off"] then some false
  else none

/-- The trimmed, non-empty items of a comma-separated text. -/
def parseList (s : String) : List String :=
  ((Text.split ',' s).map Text.trim).filter fun item => !item.isEmpty

/-- Reads plain text as a leaf of the given kind. -/
def parse? (kind : Kind) (s : String) : Option Leaf :=
  match kind with
  | .text => some (.text s)
  | .flag => (parseFlag s).map .flag
  | .number => (parseNumber (Text.trimChars s.toList)).map .number
  | .textList => some (.textList (parseList s))
  | .record => none

/-- The display text of a leaf. -/
def display : Leaf → String
  | .text s => s
  | .flag b => boolText b
  | .number n => toString n.toInt
  | .textList items => "[" ++ Text.join ", " items ++ "]"

end Leaf

end LayeredConfig
