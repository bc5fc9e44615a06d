import LayeredConfig.Environment
import LayeredConfig.FilePath
import LayeredConfig.Sorting

/-
  Where resolved values come from. All leaves are attributed at once by comparison with the
  defaults and the active file; a single leaf is attributed by the environment as well.
-/

namespace LayeredConfig

/-- Where a value comes from. -/
inductive Origin where
  | default
  | environment
  | config
  | file (path : FilePath)
  deriving Repr, DecidableEq

/-- The text of an origin in reports. -/
def Origin.text : Origin → String
  | .default => "default"
  | .environment => "environment"
  | .config => "config"
  | .file path => path.text

/-- The text of a resolved leaf with its origin. -/
structure Attribution where
  name : String
  value : String
  origin : Origin
  deriving Repr, DecidableEq

namespace Attribution

/-- The field is equal to the default with its path. -/
def isDefault (defaults : List Field) (f : Field) : Bool :=
  match defaults.findRev? fun d => d.path == f.path with
  | some d => d.value == f.value
  | none => false

/-- The attribution of one leaf when all are attributed. -/
def ofLeaf (defaults : List Field) (active : Option FilePath) (f : Field) : Attribution :=
  { name := f.path
    value := f.valueText
    origin :=
      if isDefault defaults f then .default
      else
        match active with
        | some path => .file path
        | none => .default }

/-- The attributions of all leaves, sorted by path. -/
def all (resolved defaults : List Field) (active : Option FilePath) : List Attribution :=
  sortBy (fun a b => (compare a.name b.name).isLE)
    ((resolved.filter fun f => !f.isRecord).map (ofLeaf defaults active))

/-- The attribution of a single leaf. -/
def one (resolved default : Field) (environment : Environment) : Attribution :=
  { name := resolved.path
    value := resolved.valueText
    origin :=
      if resolved.value = default.value then .default
      else if (environment.lookup (Environment.variableOf resolved.path)).isSome then .environment
      else .config }

end Attribution

end LayeredConfig
