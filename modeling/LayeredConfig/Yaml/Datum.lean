import LayeredConfig.Text.Quoted
import LayeredConfig.Value
import LayeredConfig.Yaml.Plain

/-
  YAML data: what a document holds once aliases are followed and scalars are resolved. Mappings
  keep the order of their entries, and any datum may be a key.
-/

namespace LayeredConfig.Yaml

/-- A tree of YAML data. -/
inductive Datum where
  | null
  | bool (b : Bool)
  | number (n : Number)
  | string (s : String)
  | sequence (items : List Datum)
  | mapping (entries : List (Datum × Datum))
  | tagged (tag : String) (content : Datum)
  deriving Repr, Inhabited

/-- Numbers are the same when they are equal as numbers of one sort: integers and floating-point
numbers differ, both zeros are one, and so are all that are no number. -/
def Number.same : Number → Number → Bool
  | .int m, .int n => m == n
  | .float x, .float y => x == y || (x.mantissa == 0 && y.mantissa == 0)
  | .infinity a, .infinity b => a == b
  | .nan, .nan => true
  | _, _ => false

namespace Datum

/-- The name of a tag. One exclamation mark before a name is no part of it. -/
def tagName (tag : String) : List Char :=
  match tag.toList with
  | '!' :: c :: rest => c :: rest
  | name => name

mutual

/-- Equality of data, as it decides whether two keys are the same. The order of the entries of a
mapping does not count. -/
def same : Datum → Datum → Bool
  | .null, .null => true
  | .bool a, .bool b => a == b
  | .number m, .number n => m.same n
  | .string s, .string t => s == t
  | .sequence xs, .sequence ys => sameItems xs ys
  | .mapping xs, .mapping ys => xs.length == ys.length && sameEntries xs ys
  | .tagged s x, .tagged t y => tagName s == tagName t && x.same y
  | _, _ => false

/-- Equality item by item. -/
def sameItems : List Datum → List Datum → Bool
  | [], [] => true
  | x :: xs, y :: ys => x.same y && sameItems xs ys
  | _, _ => false

/-- Every entry of the first mapping is one of the second. -/
def sameEntries : List (Datum × Datum) → List (Datum × Datum) → Bool
  | [], _ => true
  | (k, v) :: rest, ys => (ys.any fun e => k.same e.1 && v.same e.2) && sameEntries rest ys

end

/-- The text of a key that is a string, with or without a tag. -/
def text? : Datum → Option String
  | .string s => some s
  | .tagged _ content => content.text?
  | _ => none

/-! ## Display in messages -/

/-- The text of a number in messages. -/
def numberText : Number → String
  | .int n => toString n
  | .float x => x.toText ⟨false⟩
  | .infinity negative => if negative then "-.inf" else ".inf"
  | .nan => ".nan"

/-- A tag with its exclamation mark. -/
def tagText (tag : String) : String :=
  match tag.toList with
  | '!' :: c :: rest => String.ofList ('!' :: c :: rest)
  | _ => "!" ++ tag

/-- Texts separated by commas. -/
def listed (texts : List String) : String :=
  match texts with
  | [] => ""
  | t :: rest => rest.foldl (fun acc s => acc ++ ", " ++ s) t

mutual

/-- A datum as messages show it. -/
def display : Datum → String
  | .null => "Null"
  | .bool b => "Bool(" ++ (if b then "true" else "false") ++ ")"
  | .number n => "Number(" ++ numberText n ++ ")"
  | .string s => "String(" ++ Text.debugQuoted s ++ ")"
  | .sequence items => "Sequence [" ++ listed (displayItems items) ++ "]"
  | .mapping entries => "Mapping \x7b" ++ listed (displayEntries entries) ++ "\x7d"
  | .tagged tag content =>
    "TaggedValue \x7b tag: " ++ tagText tag ++ ", value: " ++ content.display ++ " \x7d"

/-- The items of a sequence as messages show them. -/
def displayItems : List Datum → List String
  | [] => []
  | x :: rest => x.display :: displayItems rest

/-- The entries of a mapping; simple keys are shown without the name of their sort. -/
def displayEntries : List (Datum × Datum) → List String
  | [] => []
  | (k, v) :: rest =>
    let key :=
      match k with
      | .bool b => if b then "true" else "false"
      | .number n => numberText n
      | .string s => Text.debugQuoted s
      | k => k.display
    (key ++ ": " ++ v.display) :: displayEntries rest

end

/-! ## Value trees -/

/-- Why a datum has no value tree. -/
inductive KeyFault where
  | notText
  | notFinite
  deriving Repr, DecidableEq

/-- The text of a fault in messages. -/
def KeyFault.message : KeyFault → String
  | .notText => "key must be a string"
  | .notFinite => "float key must be finite (got NaN or +/-inf)"

/-- The value of a number. What is no finite number has none. -/
def numberValue : Number → Value
  | .int n => .int n
  | .float x => .float x
  | .infinity _ | .nan => .null

/-- The text of a key inside a value. -/
def keyText : Datum → Except KeyFault String
  | .string s => .ok s
  | .bool b => .ok (if b then "true" else "false")
  | .number (.int n) => .ok (toString n)
  | .number (.float x) => .ok (x.toText Value.floatStyle)
  | .number _ => .error .notFinite
  | .null | .sequence _ | .mapping _ | .tagged .. => .error .notText

mutual

/-- The value tree of a datum. A tagged datum becomes an object with the tag as its key. -/
def toValue : Datum → Except KeyFault Value
  | .null => .ok .null
  | .bool b => .ok (.bool b)
  | .number n => .ok (numberValue n)
  | .string s => .ok (.string s)
  | .sequence items => do return .array (← itemValues items)
  | .mapping entries => do return .ofFields (← entryValues entries)
  | .tagged tag content => do return .object [(tagText tag, ← content.toValue)]

/-- The value trees of items. -/
def itemValues : List Datum → Except KeyFault (List Value)
  | [] => .ok []
  | x :: rest => do
    let v ← x.toValue
    return v :: (← itemValues rest)

/-- The value trees of entries under the texts of their keys. -/
def entryValues : List (Datum × Datum) → Except KeyFault (List (String × Value))
  | [] => .ok []
  | (k, v) :: rest => do
    let key ← keyText k
    let value ← v.toValue
    return (key, value) :: (← entryValues rest)

end

end Datum

end LayeredConfig.Yaml
