import LayeredConfig.Text.Search
import LayeredConfig.Text.Split

/-
  Paths of files. A path keeps the text it was written with; its steps say where it leads. All
  functions here work on the text alone and never look at a file system. Two paths with the
  same steps are the same path.
-/

namespace LayeredConfig

/-- One step of a path: the root, the current directory, the parent directory, or a name. -/
inductive FilePath.Step where
  | root
  | current
  | parent
  | name (s : String)
  deriving Repr, DecidableEq

/-- A path as it was written. -/
structure FilePath where
  text : String
  deriving Repr, DecidableEq, Inhabited

namespace FilePath

/-- The parts of a path between slashes, empty ones included. -/
def pieces (p : FilePath) : List String := Text.split '/' p.text

/-- The path begins at the root. -/
def isAbsolute (p : FilePath) : Bool := Text.startsWith p.text "/"

/-- The step that a part stands for. Empty parts and `.` are no steps. -/
def stepOf? (piece : String) : Option Step :=
  if piece = "" ∨ piece = "." then none
  else if piece = ".." then some .parent
  else some (.name piece)

/-- The steps of a path. A `.` counts only at the beginning of a relative path. -/
def steps (p : FilePath) : List Step :=
  let rest := p.pieces.filterMap stepOf?
  if p.isAbsolute then .root :: rest
  else if p.pieces.head? = some "." then .current :: rest
  else rest

/-- Both paths have the same steps. -/
def sameAs (p q : FilePath) : Bool := p.steps == q.steps

/-- The part of a path that a step is written as. -/
def Step.text : Step → String
  | .root => ""
  | .current => "."
  | .parent => ".."
  | .name s => s

/-- The path with the given steps. -/
def ofSteps : List Step → FilePath
  | [.root] => ⟨"/"⟩
  | steps => ⟨Text.join "/" (steps.map Step.text)⟩

/-- The steps kept so far, last one first, after one more step. A parent step takes back the
name before it and does nothing at the root. -/
def keepStep : List Step → Step → List Step
  | kept, .current => kept
  | kept, .root => .root :: kept
  | kept, .name s => .name s :: kept
  | .name _ :: kept, .parent => kept
  | .root :: kept, .parent => .root :: kept
  | kept, .parent => .parent :: kept

/-- The steps without `.` and without a name followed by its parent step. -/
def normalSteps (steps : List Step) : List Step := (steps.foldl keepStep []).reverse

/-- The path without `.` and without a name followed by `..`, by its text alone. -/
def normalize (p : FilePath) : FilePath := ofSteps (normalSteps p.steps)

/-- A path below a base. An absolute path replaces the base. -/
def join (base p : FilePath) : FilePath :=
  if p.isAbsolute then p
  else if base.text = "" ∨ base.text.toList.getLast? = some '/' then ⟨base.text ++ p.text⟩
  else ⟨base.text ++ "/" ++ p.text⟩

/-- The directory that a path lies in, empty for the root and for a single step. -/
def directory (p : FilePath) : FilePath := ofSteps p.steps.dropLast

/-- A reference read relative to the file that holds it. An absolute reference, and any
reference of a file without a path, stays as it was written. -/
def resolve (p base : FilePath) : FilePath :=
  if p.isAbsolute ∨ base.text = "" then p else (base.directory.join p).normalize

/-- The path made absolute below a current directory. -/
def absolutize (p cwd : FilePath) : FilePath :=
  if p.isAbsolute then p.normalize else (cwd.join p).normalize

/-- A path text whose leading `~` stands for the home directory, if one is known. -/
def expandTilde (s : String) (home : Option FilePath) : FilePath :=
  match home, s.toList with
  | some h, ['~'] => h
  | some h, '~' :: '/' :: rest => h.join ⟨String.ofList rest⟩
  | _, _ => ⟨s⟩

end FilePath

end LayeredConfig
