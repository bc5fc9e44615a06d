import LayeredConfig.Settings
import LayeredConfig.Text.Blank
import LayeredConfig.Yaml.Datum.Reader

/-
  Settings from YAML. The type of a setting directs the reading: a text setting takes the source
  text of any scalar, a flag or a number needs a plain scalar of its form. Unknown keys are
  ignored whatever they hold; a known key must not occur twice.
-/

namespace LayeredConfig

namespace Yaml

/-- A plain scalar without text, as an unwritten value is. -/
def Node.isUnwritten : Node → Bool
  | .scalar _ "" .plain => true
  | _ => false

namespace Document

/-- The source text of a scalar. -/
def readText (d : Document) (node : Node) : Reading String := do
  match ← d.follow node with
  | .scalar _ text _ => return text
  | _ => throw (Fault.wrongType "a string")

/-- A scalar that may hold a value of a core type: a plain one, or a literal block with the tag
of the type. -/
def readTyped (d : Document) (core : String) (node : Node) : Reading String := do
  match ← d.follow node with
  | .scalar p text style =>
    if style = .plain ∨ (style = .literal ∧ p.tag = some (coreTag core)) then return text
    else throw (Fault.wrongType core)
  | _ => throw (Fault.wrongType core)

/-- A boolean word. -/
def readFlag (d : Document) (node : Node) : Reading Bool := do
  match Plain.bool? (← d.readTyped "bool" node) with
  | some b => return b
  | none => throw (Fault.wrongType "a boolean")

/-- An integer of 64 bits in any base. -/
def readNumber (d : Document) (node : Node) : Reading Int64 := do
  match Plain.integer? (← d.readTyped "int" node).toList with
  | some (negative, n) =>
    match int64? (if negative then -(n : Int) else n) with
    | some i => return i
    | none => throw Fault.badNumber
  | none => throw (Fault.wrongType "a number")

/-- A list of texts. A value that is not written is the empty list. -/
def readTexts (d : Document) (node : Node) : Reading (List String) := do
  let node ← d.follow node
  match node with
  | .sequence _ items => items.mapM d.readText
  | _ => if node.isUnwritten then return [] else throw (Fault.wrongType "a sequence")

/-- A node that stands for the absence of an optional value. -/
def isAbsent : Node → Except Fault Bool
  | .scalar p text .plain =>
    if p.tag.isNone then .ok (text.isEmpty || Plain.isNullWord text)
    else if p.tag = some (coreTag "null") then
      if Plain.isNullWord text then .ok true else .error (.wrongType "null")
    else .ok false
  | _ => .ok false

/-- An optional value. -/
def readOptional {α : Type} (d : Document) (read : Node → Reading α) (node : Node) :
    Reading (Option α) := do
  let node ← d.follow node
  if ← isAbsent node then return none else return some (← read node)

/-- The entries of a mapping whose keys are among the given ones. -/
def knownEntries (d : Document) (keys : List String) (seen : List (String × Node)) :
    List (Node × Node) → Reading (List (String × Node))
  | [] => return seen.reverse
  | (k, v) :: rest => do
    let key ← d.readText k
    if key ∈ keys then
      if seen.any fun e => e.1 == key then throw Fault.duplicateKey
      knownEntries d keys ((key, v) :: seen) rest
    else knownEntries d keys seen rest

/-- The fields of a record: the known entries of a mapping. A value that is not written has no
fields. -/
def readRecord (d : Document) (keys : List String) (node : Node) :
    Reading (List (String × Node)) := do
  let node ← d.follow node
  match node with
  | .mapping _ entries => d.knownEntries keys [] entries
  | _ => if node.isUnwritten then return [] else throw (Fault.wrongType "a mapping")

end Document

end Yaml

open Yaml

namespace VerificationSettings

/-- Takes one field into the settings. -/
def readField (d : Document) (v : VerificationSettings) (field : String × Node) :
    Reading VerificationSettings := do
  if field.1 = verifyKey then return { v with verifyOnCreate := ← d.readFlag field.2 }
  else return { v with checksumAlgorithm := ← d.readText field.2 }

/-- The record of a node, defaults where it gives none. -/
def read (d : Document) (node : Node) : Reading VerificationSettings := do
  let fields ← d.readRecord [verifyKey, checksumKey] node
  fields.foldlM (readField d) VerificationSettings.default

end VerificationSettings

/-- Reads a setting of a type. -/
def SettingType.read (d : Document) : (t : SettingType) → Node → Reading t.Carrier
  | .text => d.readText
  | .flag => d.readFlag
  | .number => d.readNumber
  | .texts => d.readTexts
  | .note => d.readOptional d.readText
  | .verification => d.readOptional (VerificationSettings.read d)

namespace Settings

/-- Takes one field into the settings. -/
def readField (d : Document) (c : Settings) (field : String × Node) : Reading Settings :=
  match Setting.ofKey? field.1 with
  | some s => do return c.update s (← s.type.read d field.2)
  | none => return c

/-- The settings of a node. -/
def read (d : Document) (node : Node) : Reading Settings := do
  let fields ← d.readRecord (Setting.all.map Setting.key) node
  fields.foldlM (readField d) Settings.default

/-- The settings of the text of a configuration file. -/
def parse (text : String) : Except Fault Settings := do
  if Text.isBlankText text then return Settings.default
  let d ← Document.parse text
  match d.root with
  | some root => d.run (read d root)
  | none => return Settings.default

/-- The parents of a node, all other keys ignored. -/
def readParents (d : Document) (node : Node) : Reading (List String) := do
  match (← d.readRecord [Setting.inherit.key] node).head? with
  | some field => d.readTexts field.2
  | none => return []

/-- The parent files that the text of a configuration file names. -/
def parseParents (text : String) : Except Fault (List String) := do
  if Text.isBlankText text then return []
  let d ← Document.parse text
  match d.root with
  | some root => return (← d.run (d.readOptional (readParents d) root)).getD []
  | none => return []

end Settings

end LayeredConfig
