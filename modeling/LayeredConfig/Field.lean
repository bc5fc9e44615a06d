import LayeredConfig.Field.Category
import LayeredConfig.Shape
import LayeredConfig.Value.Path

/-
  Fields of a document: what is known of a declared field besides its shape, and the value it
  has in a document.
-/

namespace LayeredConfig

/-- A field of a document type. `path` is the tags from the root joined by dots; `value` is
absent for records and where no document was read. -/
structure Field where
  name : String
  tag : String
  kind : Kind
  category : Category
  path : String
  isOptional : Bool
  isList : Bool
  isRecord : Bool
  value : Option Leaf
  deriving Repr, DecidableEq

namespace Field

/-- The path of a field below its parent, if it has one. -/
def pathBelow (parent : Option String) (tag : String) : String :=
  match parent with
  | some p => p ++ "." ++ tag
  | none => tag

/-- The field that a declaration stands for, below `parent` and with the category of the
record around it. Some shapes make no field. -/
def ofDeclared? (d : Declared Shape) (parent : Option String) (inherited : Option Category) :
    Option Field :=
  let inner := d.shape.required
  inner.kind?.map fun kind =>
    { name := d.name
      tag := d.tag
      kind
      category := inherited.getD (.ofFieldName d.name)
      path := pathBelow parent d.tag
      isOptional := d.shape.isOptional
      isList := inner.isList
      isRecord := inner.isRecord
      value := none }

/-- The field as it is known without a document. -/
def withoutValue (f : Field) : Field := { f with value := none }

/-- The field with its value in a document. -/
def refresh (f : Field) (document : Value) : Field :=
  { f with value := if f.isRecord then none else Leaf.ofNode? f.kind (document.get? f.path) }

/-- The text of the value, empty when there is none. -/
def valueText (f : Field) : String := (f.value.map Leaf.display).getD ""

/-- Fields are listed by declared name, then by path. -/
def precedes (a b : Field) : Bool :=
  ((compare a.name b.name).then (compare a.path b.path)).isLE

end Field

end LayeredConfig
