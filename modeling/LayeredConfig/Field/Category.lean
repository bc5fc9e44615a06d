import LayeredConfig.Text.Case
import LayeredConfig.Text.Search
import LayeredConfig.Text.Split

/-
  Categories of configuration fields. The declared name of a field decides its category, first
  by how it begins and then by a word it holds.
-/

namespace LayeredConfig

/-- The group a field is listed under. -/
inductive Category where
  | basicSettings
  | archiveSettings
  | backupSettings
  | inheritance
  | verification
  | statusCodes
  | formatStrings
  | templateStrings
  | regexPatterns
  deriving Repr, DecidableEq

namespace Category

/-- All categories in display order. -/
def all : List Category :=
  [.basicSettings, .archiveSettings, .backupSettings, .inheritance, .verification, .statusCodes,
    .formatStrings, .templateStrings, .regexPatterns]

/-- The name of a category in reports. -/
def name : Category → String
  | .basicSettings => "basic_settings"
  | .archiveSettings => "archive_settings"
  | .backupSettings => "backup_settings"
  | .inheritance => "inheritance"
  | .verification => "verification"
  | .statusCodes => "status_codes"
  | .formatStrings => "format_strings"
  | .templateStrings => "template_strings"
  | .regexPatterns => "regex_patterns"

/-- The category of a field with this declared name. -/
def ofFieldName (s : String) : Category :=
  if Text.startsWith s "status_" then .statusCodes
  else if Text.startsWith s "format_" then .formatStrings
  else if Text.startsWith s "template_" then .templateStrings
  else if Text.startsWith s "pattern_" then .regexPatterns
  else if Text.contains s "verification" then .verification
  else if Text.contains s "inherit" then .inheritance
  else if Text.contains s "backup" then .backupSettings
  else if Text.contains s "archive" then .archiveSettings
  else .basicSettings

/-- The category that a text names, in any case and with `-` or `_` between words. -/
def parse? (s : String) : Option Category :=
  let wanted := Text.replaceChar '-' '_' (Text.toLower s)
  all.find? fun c => c.name == wanted

/-- The message about a text that names no category. -/
def invalidMessage (s : String) : String :=
  "Invalid category '" ++ s ++ "'. Valid options: " ++ Text.join ", " (all.map name)

end Category

end LayeredConfig
