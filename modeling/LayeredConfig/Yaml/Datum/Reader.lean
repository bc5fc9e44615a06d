import LayeredConfig.Text.Utf8
import LayeredConfig.Yaml.Datum
import LayeredConfig.Yaml.Node.Parser
import LayeredConfig.Yaml.Reading

/-
  The data of a document. Scalars are resolved by their style and tag; a local tag, one that
  begins with `!`, stays with the datum.
-/

namespace LayeredConfig.Yaml

/-- The tags that name a scalar type of the YAML core. -/
def coreTag (name : String) : List UInt8 := Text.utf8 ("tag:yaml.org,2002:" ++ name)

/-- The name of a local tag; the tag `!` is named by itself. -/
def localTag? (tag : Option (List UInt8)) : Option String :=
  match tag with
  | some (33 :: rest) =>
    String.fromUTF8? ⟨(if rest.isEmpty then [33] else rest).toArray⟩
  | _ => none

namespace Datum

/-- The datum of a text as a plain scalar. -/
def ofPlain (text : String) : Except Fault Datum := do
  match ← Plain.resolve text with
  | .null => return .null
  | .bool b => return .bool b
  | .number n => return .number n
  | .text => return .string text

/-- The datum of a scalar whose tag counts. -/
def ofTagged (tag : List UInt8) (text : String) (style : ScalarStyle) : Except Fault Datum := do
  if tag = coreTag "bool" then
    match Plain.bool? text with
    | some b => return .bool b
    | none => throw (.wrongType "a boolean")
  else if tag = coreTag "int" then
    match ← Plain.int? text.toList with
    | some n => return .number (.int n)
    | none => throw (.wrongType "an integer")
  else if tag = coreTag "float" then
    match Plain.float? text with
    | some x => return .number x
    | none => throw (.wrongType "a float")
  else if tag = coreTag "null" then
    if Plain.isNullWord text then return .null else throw (.wrongType "null")
  else if tag.head? = some 33 ∧ style = .plain then ofPlain text
  else return .string text

/-- The datum of a scalar. A local tag does not count here, because it stays with the datum. -/
def ofScalar (tag : Option (List UInt8)) (text : String) (style : ScalarStyle) :
    Except Fault Datum :=
  match tag, localTag? tag with
  | some t, none => ofTagged t text style
  | _, _ => if style = .plain then ofPlain text else .ok (.string text)

/-- The entries of a mapping. No key may occur twice. -/
def readEntries (read : Node → Reading Datum) (seen : List (Datum × Datum)) :
    List (Node × Node) → Reading (List (Datum × Datum))
  | [] => return seen.reverse
  | (k, v) :: rest => do
    let key ← read k
    if seen.any fun e => e.1.same key then throw Fault.duplicateKey
    let value ← read v
    readEntries read ((key, value) :: seen) rest

/-- One level of reading. `inner` reads the nodes inside a collection and is absent at the
greatest depth. -/
def readLevel (d : Document) (inner : Option (Node → Reading Datum)) (node : Node) :
    Reading Datum := do
  let node ← d.follow node
  let content ←
    (match node, inner with
    | .scalar p text style, _ => do return ← ofScalar p.tag text style
    | .sequence _ items, some read => do return .sequence (← items.mapM read)
    | .mapping _ entries, some read => do return .mapping (← readEntries read [] entries)
    | .aliasOf _, _ => throw Fault.unknownAlias
    | _, none => throw Fault.nestedTooDeep : Reading Datum)
  return match localTag? node.tag with
    | some tag => .tagged tag content
    | none => content

/-- Reads a node in which collections are nested up to `depth` deep. -/
def read (d : Document) : Nat → Node → Reading Datum
  | 0 => readLevel d none
  | depth + 1 => readLevel d (some (read d depth))

/-- The datum of a document. A text without a document is null. -/
def ofDocument (d : Document) : Except Fault Datum :=
  match d.root with
  | some root => d.run (read d maxDepth root)
  | none => .ok .null

/-- The datum of a text. -/
def parse (text : String) : Except Fault Datum := do
  ofDocument (← Document.parse text)

/-- The entries of a node that is a mapping, whatever its tag. A value that is not written
stands for an empty mapping. -/
def readMapping (d : Document) (node : Node) : Reading (List (Datum × Datum)) := do
  match ← d.follow node with
  | .mapping _ entries => readEntries (read d (maxDepth - 1)) [] entries
  | .scalar _ "" .plain => return []
  | _ => throw (Fault.wrongType "a YAML mapping")

/-- The entries of a text that holds one mapping or nothing. -/
def parseMapping (text : String) : Except Fault (List (Datum × Datum)) := do
  let d ← Document.parse text
  match d.root with
  | some root => d.run (readMapping d root)
  | none => return []

end Datum

end LayeredConfig.Yaml
