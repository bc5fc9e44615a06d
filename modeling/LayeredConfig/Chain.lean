import LayeredConfig.ConfigFile

/-
  Chains of inherited files. A file may name parents, which apply before it. The chain of a file
  holds it and all its ancestors, every file after its parents; a file that would be reached
  twice makes the chain invalid.
-/

namespace LayeredConfig

namespace Chain

/-- The files met so far and the chain so far, latest file first. -/
structure Walk where
  met : List FilePath
  chain : List FilePath
  deriving Repr, DecidableEq

/-- The path of a parent as a file refers to it. -/
def parentPath (home : Option FilePath) (child : FilePath) (reference : String) : FilePath :=
  (FilePath.expandTilde reference home).resolve child

/-- The parents of a file as paths. -/
def parentPaths (fs : FileSystem) (home : Option FilePath) (p : FilePath) : List FilePath :=
  (ConfigFile.parentsOf fs p).map (parentPath home p)

/-- A file can be entered: it was not met before and is a regular file. -/
def enter (fs : FileSystem) (met : List FilePath) (p : FilePath) : Except Problem Unit :=
  if met.any p.sameAs then .error (.circularDependency p) else fs.validate p

/-- Adds a file and its ancestors to a walk. `depth` bounds the length of a line of ancestors. -/
def visit (fs : FileSystem) (home : Option FilePath) :
    Nat → Walk → FilePath → Except Problem Walk
  | 0, _, p => .error (.circularDependency p)
  | depth + 1, w, p => do
    enter fs w.met p
    let w ← (parentPaths fs home p).foldlM (visit fs home depth) { w with met := p :: w.met }
    return { w with chain := p :: w.chain }

/-- The contents of all files. -/
def contents (fs : FileSystem) : List ByteArray :=
  fs.entries.filterMap fun e =>
    match e.2 with
    | .file content => some content
    | .directory => none

/-- A bound on the length of a line of ancestors. The files of a line are met once each; a path
in the line is the start, a reference as some file writes it, or a normal path of a file, which
may begin with parent steps when it is relative. -/
def depthBound (fs : FileSystem) : Nat :=
  let references := ((contents fs).flatMap ConfigFile.parentsIn).length
  2 + references + (FileSystem.maxPathLength + 1) * (contents fs).length

/-- The chain of a file, parents first. -/
def build (fs : FileSystem) (home : Option FilePath) (start : FilePath) :
    Except Problem (List FilePath) := do
  let w ← visit fs home (depthBound fs) ⟨[], []⟩ start.normalize
  return w.chain.reverse

end Chain

end LayeredConfig
