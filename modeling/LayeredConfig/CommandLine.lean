import LayeredConfig.CommandLine.Arguments
import LayeredConfig.Query

/-
  The program as a function: from its arguments, its environment and a file system to what it
  prints and its exit status.
-/

namespace LayeredConfig.CommandLine

/-- What a run of the program leaves behind. -/
structure Outcome where
  status : Nat
  stdout : String
  stderr : String
  deriving Repr, DecidableEq

/-- The world that a run of the program sees. -/
structure Surroundings where
  fileSystem : FileSystem
  home : Option FilePath
  cwd : FilePath
  environment : Environment

/-- The output of a command, or the message of its failure. -/
def runCommand (r : Resolution) : Command → Except String String
  | .config style => .ok (Report.values r.origins style)
  | .chain style => .ok (Report.chain r.applied style)
  | .fields style category part pattern =>
    .ok (Report.fields (r.select (selectionOf category part pattern)) style)
  | .get path style =>
    match r.field? path with
    | none => .error ("Unknown configuration field '" ++ path ++ "'")
    | some field =>
      if field.isRecord then
        let inside := r.leaves.filter fun f => Text.startsWith f.path (field.path ++ ".")
        .ok (Report.fields inside style)
      else
        match r.origin? path with
        | some a => .ok (Report.values [a] style)
        | none => .ok (Report.fields [field] style)

/-- A run that ends with a failure. -/
def failed (stderr message : String) : Outcome := ⟨1, "", stderr ++ "Error: " ++ message ++ "\n"⟩

/-- The resolution that an invocation asks for, in a file system. -/
def resolve (i : Invocation) (w : Surroundings) (fs : FileSystem) : Resolution :=
  let discovered :=
    SearchPath.ofVariable w.home w.cwd (w.environment.lookup SearchPath.variableName)
  Resolution.load fs w.home (i.search w.home w.cwd discovered) i.mode w.environment

/-- The run after log output was set up. -/
def runIn (i : Invocation) (w : Surroundings) (fs : FileSystem) : Outcome :=
  let r := resolve i w fs
  let warnings := Report.problems r.problems
  match runCommand r i.command with
  | .ok text => ⟨0, text, warnings⟩
  | .error message => failed warnings message

/-- Opening the log file may create it, before any configuration file is read. -/
def runInvocation (i : Invocation) (w : Surroundings) : Outcome :=
  match LogDestination.parse i.log with
  | .file path =>
    match w.fileSystem.touch path with
    | .ok fs => runIn i w fs
    | .error fault => failed "" fault.message
  | .off | .stdout | .stderr => runIn i w w.fileSystem

/-- A run of the program. -/
def run (args : List String) (w : Surroundings) : Except UsageFault Outcome := do
  return runInvocation (← parse args) w

end LayeredConfig.CommandLine
