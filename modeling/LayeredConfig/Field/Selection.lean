import LayeredConfig.Field
import LayeredConfig.Glob

/-
  Selections of fields by a part of the path, a category and a glob. A criterion that is not
  given selects every field.
-/

namespace LayeredConfig

/-- Which fields to list. `part` is in lower case. -/
structure Selection where
  part : Option String
  category : Option Category
  pattern : Option Pattern
  deriving Repr, DecidableEq

namespace Selection

/-- The selection of every field. -/
def every : Selection := ⟨none, none, none⟩

/-- Selects the paths that hold a text in any case. -/
def withPart (s : Selection) (part : String) : Selection :=
  { s with part := some (Text.toLower part) }

/-- Selects the fields of a category. -/
def withCategory (s : Selection) (c : Category) : Selection := { s with category := some c }

/-- Selects the paths that match a glob. -/
def withGlob (s : Selection) (glob : String) : Selection :=
  { s with pattern := some (compileGlob glob) }

/-- A criterion that is absent or holds. -/
def admits {α : Type} (criterion : Option α) (test : α → Bool) : Bool :=
  match criterion with
  | some c => test c
  | none => true

/-- The field meets all criteria. -/
def accepts (s : Selection) (f : Field) : Bool :=
  admits s.part (Text.contains (Text.toLower f.path)) &&
    admits s.category (f.category == ·) && admits s.pattern (·.isMatch f.path)

end Selection

end LayeredConfig
