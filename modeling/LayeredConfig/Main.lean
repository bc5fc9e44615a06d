import LayeredConfig.CommandLine

/-
  The program itself. It collects the part of the file system that a run can see, following the
  references of the files it reads, and prints what the run leaves behind.
-/

namespace LayeredConfig

/-- What is known of the file system so far, and the paths already looked at. -/
structure Survey where
  entries : List (List String × FileSystem.Entry)
  seen : List String

namespace Survey

/-- The absolute text of a place. -/
def placeText (place : List String) : String := "/" ++ Text.join "/" place

/-- Records what stands at a place, if anything does. -/
def look (s : Survey) (place : List String) : IO Survey := do
  if (s.entries.lookup place).isSome then return s
  let path := (← IO.FS.realPath "/") / placeText place
  if ← path.isDir then return { s with entries := (place, .directory) :: s.entries }
  try
    let content ← IO.FS.readBinFile path
    return { s with entries := (place, .file content) :: s.entries }
  catch _ => return s

/-- Records what stands at every part of a path. -/
def walk (s : Survey) (place : List String) : List String → IO Survey
  | [] => return s
  | piece :: rest => do
    let place :=
      if piece = "" ∨ piece = "." then place
      else if piece = ".." then place.dropLast
      else place ++ [piece]
    (← s.look place).walk place rest

/-- Records a path and the files that it inherits from. -/
partial def follow (home : Option FilePath) (cwd : FilePath) (s : Survey) (p : FilePath) :
    IO Survey := do
  if p.text ∈ s.seen then return s
  let names := cwd.pieces.filter (· ≠ "")
  let s := { s with seen := p.text :: s.seen }
  let s ← s.walk (if p.isAbsolute then [] else names) p.pieces
  let fs : FileSystem := ⟨s.entries, names⟩
  (Chain.parentPaths fs home p).foldlM (fun s parent => follow home cwd s parent) s

end Survey

/-- The variables of the environment that a run looks up. -/
def readEnvironment : IO Environment := do
  let names :=
    SearchPath.variableName :: Resolution.fields.map fun f => Environment.variableOf f.path
  names.filterMapM fun name => do return (← IO.getEnv name).map (name, ·)

/-- The surroundings of a run of an invocation. -/
def survey (i : CommandLine.Invocation) : IO CommandLine.Surroundings := do
  let cwd : FilePath := ⟨(← IO.currentDir).toString⟩
  let home := ((← IO.getEnv "HOME").filter (· ≠ "")).map FilePath.mk
  let environment ← readEnvironment
  let discovered :=
    SearchPath.ofVariable home cwd (environment.lookup SearchPath.variableName)
  let start ← Survey.walk ⟨[], []⟩ [] cwd.pieces
  let logged ← match LogDestination.parse i.log with
    | .file path => start.follow home cwd path
    | .off | .stdout | .stderr => pure start
  let s ← (i.search home cwd discovered).foldlM
    (fun (s : Survey) p => do
      let s ← s.follow home cwd p
      s.follow home cwd p.normalize)
    logged
  return ⟨⟨s.entries, cwd.pieces.filter (· ≠ "")⟩, home, cwd, environment⟩

/-- How the program is called. -/
def usage : String :=
  "Usage: [OPTIONS] <COMMAND>\n\n" ++
    "Commands:\n" ++
    "  config        Show every resolved value and where it came from\n" ++
    "  get <PATH>    Show one field by dotted path\n" ++
    "  fields        List configuration fields\n" ++
    "  chain         Show the config files applied, in order\n" ++
    "  help          Show this message\n\n" ++
    "Options:\n" ++
    "  -c, --config <FILE>    Use only this configuration file\n" ++
    "      --legacy           Merge config files whole instead of following inheritance\n" ++
    "  -v, --verbose          Enable verbose logging\n" ++
    "  -l, --log <LOG>        0/off, 1/stdout, 2/stderr (default), or a file name\n" ++
    "  -h, --help             Show this message\n" ++
    "  -V, --version          Show the version\n"

/-- The version of the program. -/
def version : String := "0.2.1"

/-- What is printed when the arguments name nothing to run. -/
def usageOutcome (fault : CommandLine.UsageFault) : CommandLine.Outcome :=
  match fault with
  | .help => ⟨fault.status, usage, ""⟩
  | .version => ⟨fault.status, version ++ "\n", ""⟩
  | _ => ⟨fault.status, "", "error: " ++ fault.name ++ "\n\n" ++ usage⟩

/-- Creates the log file, where there is one to create. A fault shows in the run itself. -/
def createLog (i : CommandLine.Invocation) : IO Unit :=
  match LogDestination.parse i.log with
  | .file path => do
    try
      let _ ← IO.FS.Handle.mk path.text .append
    catch _ => return ()
  | .off | .stdout | .stderr => return ()

end LayeredConfig

open LayeredConfig in
/-- Runs the program. -/
def main (args : List String) : IO UInt32 := do
  let outcome ← match CommandLine.parse args with
    | .error fault => pure (usageOutcome fault)
    | .ok i => do
      createLog i
      pure (CommandLine.runInvocation i (← survey i))
  IO.print outcome.stdout
  IO.eprint outcome.stderr
  return UInt32.ofNat outcome.status
