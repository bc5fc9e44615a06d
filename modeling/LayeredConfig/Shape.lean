import LayeredConfig.Leaf

/-
  Declared shapes of documents: scalars, lists, optional values and records with named fields.
  A field is written in files under its tag.
-/

namespace LayeredConfig

/-- A field of a record: its declared name, the tag it is written under, and its shape. -/
structure Declared (α : Type) where
  name : String
  tag : String
  shape : α
  deriving Repr

/-- The declared shape of a value. -/
inductive Shape where
  | text
  | flag
  | number
  | list (element : Shape)
  | optional (inner : Shape)
  | record (name : String) (fields : List (Declared Shape))
  deriving Repr, Inhabited

namespace Shape

/-- The name of the declared type. -/
def typeName : Shape → String
  | .text => "String"
  | .flag => "bool"
  | .number => "i64"
  | .list _ => "Vec"
  | .optional _ => "Option"
  | .record name _ => name

/-- The name of the form of a shape. -/
def formName : Shape → String
  | .text => "string"
  | .flag => "bool"
  | .number => "int"
  | .list _ => "list"
  | .optional _ => "optional"
  | .record .. => "record"

/-- The shape below one `optional`, and the shape itself otherwise. -/
def required : Shape → Shape
  | .optional inner => inner
  | shape => shape

/-- The value may be absent. -/
def isOptional : Shape → Bool
  | .optional _ => true
  | _ => false

/-- The value is a list. -/
def isList : Shape → Bool
  | .list _ => true
  | _ => false

/-- The value is a record. -/
def isRecord : Shape → Bool
  | .record .. => true
  | _ => false

/-- The kind of a field of this shape, looking through one `optional`. Lists of anything but
texts and values that are optional twice have none. -/
def kind? (shape : Shape) : Option Kind :=
  match shape.required with
  | .text => some .text
  | .flag => some .flag
  | .number => some .number
  | .list .text => some .textList
  | .list _ | .optional _ => none
  | .record .. => some .record

/-- The fields of a record, looking through one `optional`. -/
def recordFields? (shape : Shape) : Option (List (Declared Shape)) :=
  match shape.required with
  | .record _ fields => some fields
  | _ => none

end Shape

end LayeredConfig
