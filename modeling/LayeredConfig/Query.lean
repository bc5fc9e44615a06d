import LayeredConfig.Field.Selection
import LayeredConfig.Origin
import LayeredConfig.Resolution

/-
  Questions about resolved settings: their fields, single fields by path, and where values come
  from.
-/

namespace LayeredConfig.Resolution

/-- All leaves with their values. -/
def leaves (r : Resolution) : List Field := Settings.shape.discover r.settings.toValue

/-- The leaves of the default settings. -/
def defaultLeaves : List Field := Settings.shape.discover Settings.default.toValue

/-- The leaves that a selection accepts. -/
def select (r : Resolution) (selection : Selection) : List Field :=
  r.leaves.filter selection.accepts

/-- The field at a path, with its value if it is a leaf. -/
def field? (r : Resolution) (path : String) : Option Field :=
  (Settings.shape.describe path).map fun f =>
    if f.isRecord then f else f.refresh r.settings.toValue

/-- A field stands at the path. -/
def hasField (path : String) : Bool := (Settings.shape.describe path).isSome

/-- Every leaf with its origin. -/
def origins (r : Resolution) : List Attribution :=
  Attribution.all r.leaves defaultLeaves r.active

/-- The leaf at a path with its origin. -/
def origin? (r : Resolution) (path : String) : Option Attribution :=
  match r.leaves.find? (·.path == path), defaultLeaves.find? (·.path == path) with
  | some resolved, some default => some (.one resolved default r.environment)
  | _, _ => none

end LayeredConfig.Resolution
