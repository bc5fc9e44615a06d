import LayeredConfig.Field
import LayeredConfig.Text.Words

/-
  Environment variables that override fields. The variable of a field is its path in capitals
  with underscores, after a fixed beginning.
-/

namespace LayeredConfig

/-- Variables and their texts. -/
abbrev Environment := List (String × String)

namespace Environment

/-- How the variable of every field begins. -/
def start : String := "BKPDIR_"

/-- The variable that overrides the field at a path. -/
def variableOf (path : String) : String := start ++ Text.upperSnake (Text.replaceChar '.' '_' path)

/-- The variables of the given fields that are set. -/
def capture (environment : Environment) (fields : List Field) : Environment :=
  (fields.filter fun f => !f.isRecord).filterMap fun f =>
    let name := variableOf f.path
    (environment.lookup name).map (name, ·)

end Environment

end LayeredConfig
