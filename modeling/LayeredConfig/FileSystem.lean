import LayeredConfig.FilePath
import LayeredConfig.Text.Utf8

/-
  File systems without links: finitely many files and directories, each at a list of names from
  the root, and a current directory. A path is walked part by part; the first part that cannot
  be followed decides the fault.
-/

namespace LayeredConfig

/-- What stands at a place of the file system. -/
inductive FileSystem.Entry where
  | directory
  | file (content : ByteArray)

/-- A finite file system. The directories above an entry exist with it. -/
structure FileSystem where
  entries : List (List String × FileSystem.Entry)
  workingDirectory : List String

/-- Why a path could not be followed or a file could not be read. -/
inductive FileFault where
  | zeroByte
  | notFound
  | notADirectory
  | isADirectory
  | nameTooLong
  | notUtf8
  deriving Repr, DecidableEq

/-- The text of a fault in messages. -/
def FileFault.message : FileFault → String
  | .zeroByte => "file name contained an unexpected NUL byte"
  | .notFound => "No such file or directory (os error 2)"
  | .notADirectory => "Not a directory (os error 20)"
  | .isADirectory => "Is a directory (os error 21)"
  | .nameTooLong => "File name too long (os error 36)"
  | .notUtf8 => "stream did not contain valid UTF-8"

namespace FileSystem

/-- The greatest length of a name in bytes. -/
def maxNameLength : Nat := 255

/-- The greatest length of a path in bytes. -/
def maxPathLength : Nat := 4095

/-- What stands at a list of names from the root. -/
def entry? (fs : FileSystem) (place : List String) : Option Entry :=
  match fs.entries.lookup place with
  | some e => some e
  | none =>
    if place.isEmpty || fs.entries.any fun e => place.isPrefixOf e.1 then some .directory
    else none

/-- One part of a path, followed from a place. Every part needs a directory to start from. -/
def follow (fs : FileSystem) (place : List String) (piece : String) :
    Except FileFault (List String) :=
  match fs.entry? place with
  | none => .error .notFound
  | some (.file _) => .error .notADirectory
  | some .directory =>
    if piece = "" ∨ piece = "." then .ok place
    else if piece = ".." then .ok place.dropLast
    else if Text.byteLength piece.toList > maxNameLength then .error .nameTooLong
    else if (fs.entry? (place ++ [piece])).isSome then .ok (place ++ [piece])
    else .error .notFound

/-- The place where a walk along the parts of a path begins. -/
def origin (fs : FileSystem) (p : FilePath) : List String :=
  if p.isAbsolute then [] else fs.workingDirectory

/-- The texts that are no paths at all. -/
def pathFault? (p : FilePath) : Option FileFault :=
  if p.text.toList.contains '\x00' then some .zeroByte
  else if p.text = "" then some .notFound
  else if Text.byteLength p.text.toList > maxPathLength then some .nameTooLong
  else none

/-- The place that a path leads to. -/
def locate (fs : FileSystem) (p : FilePath) : Except FileFault (List String) :=
  match pathFault? p with
  | some fault => .error fault
  | none => p.pieces.foldlM fs.follow (fs.origin p)

/-- What a path leads to. -/
def find (fs : FileSystem) (p : FilePath) : Except FileFault Entry := do
  let place ← fs.locate p
  match fs.entry? place with
  | some e => .ok e
  | none => .error .notFound

/-- The text of a file. -/
def read (fs : FileSystem) (p : FilePath) : Except FileFault String := do
  match ← fs.find p with
  | .directory => .error .isADirectory
  | .file content =>
    match String.fromUTF8? content with
    | some s => .ok s
    | none => .error .notUtf8

/-- The parts of a path down to its last name, and whether a slash follows them. -/
def trimmedPieces (p : FilePath) : List String × Bool :=
  let pieces := (p.pieces.reverse.dropWhile (· = "")).reverse
  (pieces, pieces.length < p.pieces.length)

/-- The file system after a file was opened for appending, which creates it when it does not
exist. A slash at the end asks for a directory, whatever the last name leads to. -/
def touch (fs : FileSystem) (p : FilePath) : Except FileFault FileSystem := do
  match pathFault? p with
  | some fault => .error fault
  | none =>
    let (pieces, slash) := trimmedPieces p
    let place ← pieces.dropLast.foldlM fs.follow (fs.origin p)
    match fs.entry? place with
    | none => .error .notFound
    | some (.file _) => .error .notADirectory
    | some .directory =>
      let last := pieces.getLast?.getD ""
      if slash ∨ last = "" ∨ last = "." ∨ last = ".." then .error .isADirectory
      else if Text.byteLength last.toList > maxNameLength then .error .nameTooLong
      else
        match fs.entry? (place ++ [last]) with
        | some .directory => .error .isADirectory
        | some (.file _) => .ok fs
        | none => .ok { fs with entries := fs.entries ++ [(place ++ [last], .file .empty)] }

end FileSystem

end LayeredConfig
