import LayeredConfig.Yaml.Fault
import LayeredConfig.Yaml.Node

/-
  Reading nodes of a document. Following an alias costs one unit of a budget that depends on the
  size of the document, and collections may be nested up to a fixed depth, so that a short text
  cannot stand for endless data.
-/

namespace LayeredConfig.Yaml

/-- A reading step: it uses up some of the aliases that may still be followed. -/
abbrev Reading (α : Type) := StateT Nat (Except Fault) α

/-- The greatest depth of nested collections. -/
def maxDepth : Nat := 128

namespace Document

/-- The node itself, or the node that an alias stands for. -/
def follow (d : Document) (node : Node) : Reading Node := fun budget =>
  match node with
  | .aliasOf slot =>
    match budget, d.slot? slot with
    | 0, _ => .error .tooManyAliases
    | _, none => .error .unknownAlias
    | budget + 1, some target => .ok (target, budget)
  | node => .ok (node, budget)

/-- The result of reading from the whole budget of a document. -/
def run {α : Type} (d : Document) (reading : Reading α) : Except Fault α := do
  let (a, _) ← reading d.aliasLimit
  return a

end Document

end LayeredConfig.Yaml
