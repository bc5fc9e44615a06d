import LayeredConfig.Problem
import LayeredConfig.Settings

/-
  Settings as value trees. Writing gives an object with every key. Reading takes an object,
  where missing keys stand for defaults and unknown keys are ignored, or an array of the values
  in the order of declaration, where a missing tail stands for defaults.
-/

namespace LayeredConfig

namespace VerificationSettings

/-- The value tree of the record. -/
def toValue (v : VerificationSettings) : Value :=
  .ofFields [(verifyKey, .bool v.verifyOnCreate), (checksumKey, .string v.checksumAlgorithm)]

/-- A boolean where a value is present, otherwise the given default. -/
def flagOr (default : Bool) : Option Value → Option Bool
  | none => some default
  | some (.bool b) => some b
  | some _ => none

/-- A string where a value is present, otherwise the given default. -/
def textOr (default : String) : Option Value → Option String
  | none => some default
  | some (.string s) => some s
  | some _ => none

/-- The settings of two nodes that may be missing. -/
def ofNodes? (verify checksum : Option Value) : Option VerificationSettings :=
  match flagOr default.verifyOnCreate verify, textOr default.checksumAlgorithm checksum with
  | some v, some c => some ⟨v, c⟩
  | _, _ => none

/-- The record of an object, or of an array of at most two values. -/
def ofValue? (v : Value) : Option VerificationSettings :=
  match v with
  | .object _ => ofNodes? (v.field? verifyKey) (v.field? checksumKey)
  | .array items => if items.length ≤ 2 then ofNodes? items[0]? items[1]? else none
  | _ => none

end VerificationSettings

namespace SettingType

/-- The value tree of a setting. -/
def toValue : (t : SettingType) → t.Carrier → Value
  | .text, s => .string s
  | .flag, b => .bool b
  | .number, n => .int n.toInt
  | .texts, items => .array (items.map .string)
  | .note, some s => .string s
  | .note, none => .null
  | .verification, some v => v.toValue
  | .verification, none => .null

/-- The text of a string value. -/
def string? : Value → Option String
  | .string s => some s
  | _ => none

/-- Reads a setting of a type. -/
def ofValue? : (t : SettingType) → Value → Option t.Carrier
  | .text, .string s => some s
  | .flag, .bool b => some b
  | .number, .int n => int64? n
  | .texts, .array items => items.mapM string?
  | .note, .null => some none
  | .note, .string s => some (some s)
  | .verification, .null => some none
  | .verification, v => (VerificationSettings.ofValue? v).map some
  | _, _ => none

end SettingType

namespace Settings

/-- The value tree of the settings. -/
def toValue (c : Settings) : Value :=
  .ofFields (Setting.all.map fun s => (s.key, s.type.toValue (c s)))

/-- The node is missing or can be read as the setting. -/
def fits (s : Setting) (node : Option Value) : Bool :=
  match node with
  | some v => (s.type.ofValue? v).isSome
  | none => true

/-- The settings of nodes that may be missing. -/
def ofNodes? (node : Setting → Option Value) : Option Settings :=
  if Setting.all.all fun s => fits s (node s) then
    some fun s => ((node s).bind s.type.ofValue?).getD s.default
  else none

/-- The settings of a value tree. -/
def ofValue? (v : Value) : Option Settings :=
  match v with
  | .object _ => ofNodes? fun s => v.field? s.key
  | .array items =>
    if items.length ≤ Setting.all.length then ofNodes? fun s => items[Setting.all.idxOf s]?
    else none
  | _ => none

/-- The settings of a merged value tree, or the problem that it is none. -/
def decode (v : Value) : Except Problem Settings :=
  match ofValue? v with
  | some c => .ok c
  | none => .error (.unserializable "the document does not fit the settings")

end Settings

end LayeredConfig
