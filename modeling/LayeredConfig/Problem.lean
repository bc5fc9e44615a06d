import LayeredConfig.FilePath

/-
  Problems met while resolving a configuration. Each has a code for programs and a message for
  people. A problem with the chain of inherited files ends the resolution; after all others it
  goes on without the file or the key at fault.
-/

namespace LayeredConfig

/-- A problem of a configuration file or document. -/
inductive Problem where
  | pathInvalid (path : FilePath) (reason : String)
  | circularDependency (path : FilePath)
  | undecodable (path : FilePath) (reason : String)
  | unknownField (key : String) (path : FilePath)
  | typeMismatch (key : String) (expected : String) (path : FilePath)
  | unserializable (reason : String)
  deriving Repr, DecidableEq

namespace Problem

/-- The name of the problem for programs. -/
def code : Problem → String
  | .pathInvalid .. => "PATH_INVALID"
  | .circularDependency _ => "CIRCULAR_DEPENDENCY"
  | .undecodable .. => "DECODE_ERROR"
  | .unknownField .. => "UNKNOWN_FIELD"
  | .typeMismatch .. => "TYPE_MISMATCH"
  | .unserializable _ => "SERIALIZE_ERROR"

/-- The text of a problem for people. -/
def message : Problem → String
  | .pathInvalid path reason => "invalid config path " ++ path.text ++ ": " ++ reason
  | .circularDependency path =>
    "circular dependency detected: " ++ path.text ++ " is already part of the inheritance chain"
  | .undecodable path reason => "failed to decode " ++ path.text ++ ": " ++ reason
  | .unknownField key path => "unknown config field '" ++ key ++ "' in " ++ path.text
  | .typeMismatch key expected path =>
    "field '" ++ key ++ "' in " ++ path.text ++ " expects " ++ expected
  | .unserializable reason => "failed to serialize configuration: " ++ reason

/-- Resolution goes on after the problem. -/
def isRecoverable : Problem → Bool
  | .pathInvalid .. | .circularDependency _ => false
  | .undecodable .. | .unknownField .. | .typeMismatch .. | .unserializable _ => true

end Problem

end LayeredConfig
