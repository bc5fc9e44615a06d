import LayeredConfig.Chain
import LayeredConfig.Environment
import LayeredConfig.Field.Cache
import LayeredConfig.Merge
import LayeredConfig.SearchPath
import LayeredConfig.Settings.Document

/-
  Resolution of the settings: defaults, then files, then environment variables. It never fails.
  When the chain of some candidate cannot be built, the settings are the defaults; all other
  problems cost only the file or key at fault.
-/

namespace LayeredConfig

/-- How files are combined: by the operations of whole chains, or each file decoded whole and
compared with the defaults. -/
inductive Mode where
  | inheritance
  | legacy
  deriving Repr, DecidableEq

/-- The name of a mode. -/
def Mode.name : Mode → String
  | .inheritance => "inheritance"
  | .legacy => "legacy"

/-- The settings that files give, the files applied, and the problems met on the way. -/
structure Layers where
  settings : Settings
  applied : List FilePath
  problems : List Problem

/-- The resolved settings and what explains them. -/
structure Resolution where
  search : SearchPath
  mode : Mode
  settings : Settings
  active : Option FilePath
  applied : List FilePath
  environment : Environment
  problems : List Problem

namespace Resolution

/-- The leaves of the settings. -/
def fields : List Field := Settings.shape.metadata

/-- The paths of `more` after those of `files`, without any path that is already there. -/
def extend (files more : List FilePath) : List FilePath :=
  more.foldl (fun acc p => if acc.any p.sameAs then acc else acc ++ [p]) files

/-- The files of the chains of all candidates, lowest priority first, each file once. -/
def chainFiles (fs : FileSystem) (home : Option FilePath) (candidates : List FilePath) :
    Except Problem (List FilePath) :=
  candidates.reverse.foldlM
    (fun files candidate => do return extend files (← Chain.build fs home candidate)) []

/-- A document after the operations of a file, and the problems of the file. -/
def applyFile (fs : FileSystem) (document : Value) (p : FilePath) : Value × List Problem :=
  match ConfigFile.loadOperations fs p with
  | .ok ops => Merge.apply document ops fields p
  | .error problem => (document, [problem])

/-- A document after the operations of several files, and the problems of all of them. -/
def applyFiles (fs : FileSystem) (document : Value) : List FilePath → Value × List Problem
  | [] => (document, [])
  | p :: rest =>
    let (document, problems) := applyFile fs document p
    let (document, more) := applyFiles fs document rest
    (document, problems ++ more)

/-- The settings without any file, and the problem that led to them. -/
def fallback (problems : List Problem) (problem : Problem) : Layers :=
  ⟨Settings.default, [], problems ++ [problem]⟩

/-- The layers of the files in inheritance mode. -/
def inheritanceLayers (fs : FileSystem) (home : Option FilePath) (search : SearchPath) : Layers :=
  match chainFiles fs home (search.existing fs) with
  | .error problem => fallback [] problem
  | .ok files =>
    let (document, problems) := applyFiles fs Settings.default.toValue files
    match Settings.decode document with
    | .ok settings => ⟨settings, files, problems⟩
    | .error problem => fallback problems problem

/-- Settings over which the leaves of other settings are copied that differ from the defaults. -/
def mergeSettings (result loaded defaults : Settings) : Except Problem Settings :=
  Settings.decode (Merge.overDefaults result.toValue loaded.toValue defaults.toValue fields)

/-- The layers after one candidate in legacy mode, or the layers that end the resolution. -/
def legacyStep (fs : FileSystem) (layers : Layers) (p : FilePath) : Except Layers Layers :=
  if fs.isFile p then
    match ConfigFile.loadSettings fs p with
    | .ok loaded =>
      match mergeSettings layers.settings loaded Settings.default with
      | .ok settings => .ok ⟨settings, layers.applied ++ [p], layers.problems⟩
      | .error problem => .error (fallback layers.problems problem)
    | .error problem => .ok { layers with problems := layers.problems ++ [problem] }
  else .ok layers

/-- The layers of the given candidates in legacy mode, lowest priority first. -/
def legacyLayersFrom (fs : FileSystem) (layers : Layers) : List FilePath → Layers
  | [] => layers
  | p :: rest =>
    match legacyStep fs layers p with
    | .ok layers => legacyLayersFrom fs layers rest
    | .error last => last

/-- The layers of the files in legacy mode. -/
def legacyLayers (fs : FileSystem) (search : SearchPath) : Layers :=
  legacyLayersFrom fs ⟨Settings.default, [], []⟩ search.reverse

/-- The layers of the files. -/
def fileLayers (fs : FileSystem) (home : Option FilePath) (search : SearchPath) : Mode → Layers
  | .inheritance => inheritanceLayers fs home search
  | .legacy => legacyLayers fs search

/-- The value tree with the variables of an environment set over it. A text that cannot be read
as its field is ignored. -/
def overlay (document : Value) (environment : Environment) (fields : List Field) : Value :=
  (fields.filter fun f => !f.isRecord).foldl
    (fun doc f =>
      match environment.lookup (Environment.variableOf f.path) with
      | some text =>
        match Leaf.parse? f.kind text with
        | some leaf => doc.assign f.path leaf.toValue
        | none => doc
      | none => doc)
    document

/-- The settings after the environment, and the problem if they could not be changed. -/
def applyEnvironment (settings : Settings) (environment : Environment) :
    Settings × List Problem :=
  if environment.isEmpty then (settings, [])
  else
    match Settings.decode (overlay settings.toValue environment fields) with
    | .ok changed => (changed, [])
    | .error problem => (settings, [problem])

/-- Resolves the settings. Only the variables of fields count in the environment. -/
def load (fs : FileSystem) (home : Option FilePath) (search : SearchPath) (mode : Mode)
    (environment : Environment) : Resolution :=
  let layers := fileLayers fs home search mode
  let captured := environment.capture fields
  let (settings, problems) := applyEnvironment layers.settings captured
  { search
    mode
    settings
    active := (search.existing fs).head?
    applied := layers.applied
    environment := captured
    problems := layers.problems ++ problems }

end Resolution

end LayeredConfig
