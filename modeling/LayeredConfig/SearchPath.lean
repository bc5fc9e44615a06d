import LayeredConfig.ConfigFile
import LayeredConfig.Text.Blank

/-
  The search path: candidate configuration files, highest priority first. It comes from an
  environment variable with entries between colons, or from two defaults.
-/

namespace LayeredConfig

/-- Candidate files, highest priority first. -/
abbrev SearchPath := List FilePath

namespace SearchPath

/-- The environment variable that holds the search path. -/
def variableName : String := "BKPDIR_CONFIG"

/-- The entries used when the variable is not set. -/
def defaultEntries : List String := ["./.bkpdir.yml", "~/.bkpdir.yml"]

/-- The entries of a value of the variable. A blank value counts as none. -/
def entries (value : Option String) : List String :=
  match value with
  | some s =>
    if Text.isBlankText s then defaultEntries
    else (Text.split ':' s).filter fun entry => !entry.isEmpty
  | none => defaultEntries

/-- A path as a user writes it, made absolute. -/
def locateEntry (home : Option FilePath) (cwd : FilePath) (entry : String) : FilePath :=
  (FilePath.expandTilde entry home).absolutize cwd

/-- The search path for a value of the variable. -/
def ofVariable (home : Option FilePath) (cwd : FilePath) (value : Option String) : SearchPath :=
  (entries value).map (locateEntry home cwd)

/-- The candidates that are regular files. -/
def existing (fs : FileSystem) (search : SearchPath) : List FilePath := search.filter fs.isFile

end SearchPath

end LayeredConfig
