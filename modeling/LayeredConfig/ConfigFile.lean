import LayeredConfig.FileSystem
import LayeredConfig.Operation
import LayeredConfig.Problem
import LayeredConfig.Settings.Reader

/-
  Configuration files. One file can be read in three ways: as operations, as whole settings, or
  for its parents alone. Each way fails with one problem that names the file.
-/

namespace LayeredConfig

namespace FileSystem

/-- The path leads to a regular file. -/
def validate (fs : FileSystem) (p : FilePath) : Except Problem Unit :=
  match fs.find p with
  | .ok (.file _) => .ok ()
  | .ok .directory => .error (.pathInvalid p "not a regular file")
  | .error fault => .error (.pathInvalid p fault.message)

/-- The path leads to a regular file. -/
def isFile (fs : FileSystem) (p : FilePath) : Bool :=
  match fs.validate p with
  | .ok _ => true
  | .error _ => false

/-- The text of a configuration file. -/
def readText (fs : FileSystem) (p : FilePath) : Except Problem String :=
  match fs.read p with
  | .ok text => .ok text
  | .error fault => .error (.undecodable p fault.message)

end FileSystem

namespace ConfigFile

/-- A result of reading YAML as a result of reading a file. -/
def ofYaml {α : Type} (p : FilePath) : Except Yaml.Fault α → Except Problem α
  | .ok a => .ok a
  | .error fault => .error (.undecodable p fault.message)

/-- The reason given for a file that holds no mapping. -/
def notMappingReason : String := "expected a mapping at the top level"

/-- The operations of a datum at the top level of a file. -/
def operationsOf (p : FilePath) : Yaml.Datum → Except Problem (List Operation)
  | .null => .ok []
  | .mapping entries =>
    match Operation.collect entries with
    | .ok ops => .ok ops
    | .error fault => .error (.undecodable p fault.message)
  | _ => .error (.undecodable p notMappingReason)

/-- The operations of a file. -/
def loadOperations (fs : FileSystem) (p : FilePath) : Except Problem (List Operation) := do
  let text ← fs.readText p
  let datum ← ofYaml p (Yaml.Datum.parse text)
  operationsOf p datum

/-- The settings of a file, defaults where it gives none. -/
def loadSettings (fs : FileSystem) (p : FilePath) : Except Problem Settings := do
  let text ← fs.readText p
  ofYaml p (Settings.parse text)

/-- The parents that a file names. -/
def loadParents (fs : FileSystem) (p : FilePath) : Except Problem (List String) := do
  let text ← fs.readText p
  ofYaml p (Settings.parseParents text)

/-- The parents that the content of a file names; a content that cannot be decoded names none. -/
def parentsIn (content : ByteArray) : List String :=
  match (String.fromUTF8? content).map Settings.parseParents with
  | some (.ok parents) => parents
  | some (.error _) | none => []

/-- The parents of a file; a file that cannot be decoded has none. -/
def parentsOf (fs : FileSystem) (p : FilePath) : List String :=
  match loadParents fs p with
  | .ok parents => parents
  | .error _ => []

end ConfigFile

end LayeredConfig
