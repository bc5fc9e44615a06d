import LayeredConfig.FilePath

/-
  Where log lines go and how many are written.
-/

namespace LayeredConfig

/-- The destination of log lines. -/
inductive LogDestination where
  | off
  | stdout
  | stderr
  | file (path : FilePath)
  deriving Repr, DecidableEq

/-- The destination that a word or a number names; anything else is a file. -/
def LogDestination.parse (s : String) : LogDestination :=
  if s = "0" ∨ s = "off" then .off
  else if s = "1" ∨ s = "stdout" then .stdout
  else if s = "2" ∨ s = "stderr" then .stderr
  else .file ⟨s⟩

/-- The least severe log lines that are written. -/
inductive LogLevel where
  | debug
  | warn
  deriving Repr, DecidableEq

/-- The name of a level in log lines. -/
def LogLevel.name : LogLevel → String
  | .debug => "DEBUG"
  | .warn => "WARN"

/-- Warnings only, unless more was asked for. -/
def LogLevel.ofVerbose (verbose : Bool) : LogLevel := if verbose then .debug else .warn

end LayeredConfig
