import LayeredConfig.Field
import LayeredConfig.Sorting

/-
  Discovery of fields. The leaves of a record are its fields that are no records, and the leaves
  of its record fields; they inherit the category of the top-level field they lie under. A
  single field, leaf or record, is found by its dotted path.
-/

namespace LayeredConfig.Shape

mutual

/-- The leaves of one declared field. -/
def leavesOfField (name tag : String) (parent : Option String) (inherited : Option Category) :
    Shape → List Field
  | .record _ fields =>
    leavesOfFields (some (Field.pathBelow parent tag))
      (some (inherited.getD (.ofFieldName name))) fields
  | .optional (.record _ fields) =>
    leavesOfFields (some (Field.pathBelow parent tag))
      (some (inherited.getD (.ofFieldName name))) fields
  | shape => (Field.ofDeclared? ⟨name, tag, shape⟩ parent inherited).toList

/-- The leaves of a list of declared fields, in their order. -/
def leavesOfFields (parent : Option String) (inherited : Option Category) :
    List (Declared Shape) → List Field
  | [] => []
  | ⟨name, tag, shape⟩ :: rest =>
    leavesOfField name tag parent inherited shape ++ leavesOfFields parent inherited rest

end

/-- The leaves of a document type, sorted, without values. -/
def metadata (shape : Shape) : List Field :=
  match shape with
  | .record _ fields => sortBy Field.precedes (leavesOfFields none none fields)
  | _ => []

/-- The leaves of a document type with their values in a document. -/
def discover (shape : Shape) (document : Value) : List Field :=
  shape.metadata.map (Field.refresh · document)

/-- Follows tags from a list of declared fields. -/
def describeFrom (fields : List (Declared Shape)) (parent : Option String)
    (inherited : Option Category) : List String → Option Field
  | [] => none
  | tag :: rest => do
    let declared ← fields.find? fun d => d.tag == tag
    let field ← Field.ofDeclared? declared parent inherited
    if rest.isEmpty then some field
    else
      let inner ← declared.shape.recordFields?
      describeFrom inner (some field.path) (some field.category) rest

/-- The field, leaf or record, at a dotted path. -/
def describe (shape : Shape) (path : String) : Option Field :=
  match shape with
  | .record _ fields => describeFrom fields none none (Value.segments path)
  | _ => none

end LayeredConfig.Shape
