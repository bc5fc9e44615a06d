import LayeredConfig.Text.Split
import LayeredConfig.Value

/-
  Dotted paths into value trees. Reading follows objects only; writing replaces whatever stands
  in the way by objects.
-/

namespace LayeredConfig.Value

/-- The segments of a dotted path. There is always at least one. -/
def segments (path : String) : List String := Text.split '.' path

/-- The value below a list of keys. -/
def getAt? : Value → List String → Option Value
  | v, [] => some v
  | v, key :: rest =>
    match v.field? key with
    | some inner => inner.getAt? rest
    | none => none

/-- The tree with the value below a list of keys replaced. A missing value, or one that is no
object, becomes an object first. -/
def setAt : Value → List String → Value → Value
  | _, [], value => value
  | v, key :: rest, value =>
    let fields := v.fields?.getD []
    let inner := (findField key fields).getD .null
    .object (insertField key (inner.setAt rest value) fields)

/-- The value at a dotted path. -/
def get? (v : Value) (path : String) : Option Value := v.getAt? (segments path)

/-- The tree with the value at a dotted path replaced. -/
def assign (v : Value) (path : String) (value : Value) : Value := v.setAt (segments path) value

end LayeredConfig.Value
