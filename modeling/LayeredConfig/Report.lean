import LayeredConfig.Origin
import LayeredConfig.Problem
import LayeredConfig.Report.Json

/-
  Reports on resolved settings as plain text, JSON or Markdown.
-/

namespace LayeredConfig

namespace Report

/-- How a report is written. -/
inductive Style where
  | text
  | json
  | markdown
  deriving Repr, DecidableEq

namespace Style

/-- The name of a style. -/
def name : Style → String
  | .text => "text"
  | .json => "json"
  | .markdown => "markdown"

/-- The style that a word names, in any case. -/
def parse? (s : String) : Option Style :=
  let word := Text.toLower s
  if word = "text" then some .text
  else if word = "json" then some .json
  else if word = "markdown" ∨ word = "md" then some .markdown
  else none

/-- The message about a word that names no style. -/
def invalidMessage (s : String) : String :=
  "Invalid format '" ++ s ++ "'. Valid options: text, json, markdown"

end Style

/-- Texts one after another. -/
def concat (texts : List String) : String := texts.foldl (· ++ ·) ""

/-! ## Values with their origins -/

/-- A value as an object. -/
def attributionJson (a : Attribution) : Json :=
  .object [("name", .string a.name), ("value", .string a.value), ("source", .string a.origin.text)]

/-- A value on one line. -/
def attributionLine (a : Attribution) : String :=
  a.name ++ ": " ++ a.value ++ " (source: " ++ a.origin.text ++ ")\n"

/-- A value as a row of a table. -/
def attributionRow (a : Attribution) : String :=
  "| `" ++ a.name ++ "` | `" ++ a.value ++ "` | " ++ a.origin.text ++ " |\n"

/-- The report on values and their origins. -/
def values (as : List Attribution) : Style → String
  | .json => (Json.array (as.map attributionJson)).toText
  | .text => concat (as.map attributionLine)
  | .markdown =>
    "# Configuration (" ++ toString as.length ++ ")\n\n" ++
      "| name | value | source |\n|---|---|---|\n" ++ concat (as.map attributionRow)

/-! ## Fields -/

/-- A leaf value as itself. -/
def leafJson : Leaf → Json
  | .text s => .string s
  | .flag b => .bool b
  | .number n => .int n.toInt
  | .textList items => .array (items.map .string)

/-- A field as an object; the value is left out where there is none. -/
def fieldJson (f : Field) : Json :=
  .object
    ([("declared_name", .string f.name), ("external_name", .string f.tag),
      ("kind", .string f.kind.name), ("category", .string f.category.name),
      ("dotted_path", .string f.path), ("is_pointer", .bool f.isOptional),
      ("is_list", .bool f.isList), ("is_record", .bool f.isRecord)] ++
      (f.value.map fun leaf => ("value", leafJson leaf)).toList)

/-- A field on one line. -/
def fieldLine (f : Field) : String :=
  f.path ++ " (" ++ f.kind.name ++ ", " ++ f.category.name ++ ") = " ++ f.valueText ++ "\n"

/-- A field as an item of a list. -/
def fieldItem (f : Field) : String :=
  "- `" ++ f.path ++ "`: " ++ f.kind.name ++ (if f.isOptional then " (optional)" else "") ++
    " = `" ++ f.valueText ++ "`\n"

/-- A word with a capital in front. -/
def capitalized (word : String) : String :=
  match word.toList with
  | [] => ""
  | c :: rest => String.ofList (Text.upperOf c ++ rest)

/-- The heading of a category. -/
def categoryHeading (c : Category) : String :=
  Text.join " " ((Text.split '_' c.name).map capitalized)

/-- The fields of one category under its heading; nothing when there are none. -/
def categorySection (fields : List Field) (c : Category) : String :=
  let group := fields.filter fun f => f.category == c
  if group.isEmpty then ""
  else "## " ++ categoryHeading c ++ "\n\n" ++ concat (group.map fieldItem) ++ "\n"

/-- The report on fields. -/
def fields (fs : List Field) : Style → String
  | .json => (Json.array (fs.map fieldJson)).toText
  | .text => concat (fs.map fieldLine)
  | .markdown =>
    "# Fields (" ++ toString fs.length ++ ")\n\n" ++ concat (Category.all.map (categorySection fs))

/-! ## Files and problems -/

/-- Lines numbered from `n` on. -/
def numbered (line : String → String) (n : Nat) : List FilePath → String
  | [] => ""
  | p :: rest => toString n ++ ". " ++ line p.text ++ "\n" ++ numbered line (n + 1) rest

/-- The report on the files applied, in order. -/
def chain (files : List FilePath) : Style → String
  | .json => (Json.array (files.map fun p => .string p.text)).toText
  | .text => numbered (fun text => text) 1 files
  | .markdown => "# Inheritance chain\n\n" ++ numbered (fun text => "`" ++ text ++ "`") 1 files

/-- The report on problems that resolution went on after. -/
def problems (ps : List Problem) : String :=
  concat (ps.map fun p => "warning: " ++ p.message ++ "\n")

end Report

end LayeredConfig
