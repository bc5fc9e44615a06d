import LayeredConfig.Yaml.Token

/-
  Nodes of a YAML document: scalars, sequences, mappings, and aliases of earlier nodes. An
  anchor takes a slot, and an alias names the slot that its anchor had at that point.
-/

namespace LayeredConfig.Yaml

/-- The tag and the anchor slot in front of a node. -/
structure NodeProperties where
  tag : Option (List UInt8)
  slot : Option Nat
  deriving Repr, DecidableEq

/-- A node of a document. -/
inductive Node where
  | scalar (properties : NodeProperties) (text : String) (style : ScalarStyle)
  | sequence (properties : NodeProperties) (items : List Node)
  | mapping (properties : NodeProperties) (entries : List (Node × Node))
  | aliasOf (slot : Nat)
  deriving Repr, Inhabited

namespace Node

/-- The tag of a node. Aliases have none. -/
def tag : Node → Option (List UInt8)
  | .scalar p _ _ | .sequence p _ | .mapping p _ => p.tag
  | .aliasOf _ => none

mutual

/-- The number of marks in the flat form of a node: one for a scalar or an alias, and one at each
end of a collection. -/
def size : Node → Nat
  | .scalar .. | .aliasOf _ => 1
  | .sequence _ items => 2 + sizeItems items
  | .mapping _ entries => 2 + sizeEntries entries

/-- The size of several nodes. -/
def sizeItems : List Node → Nat
  | [] => 0
  | n :: rest => n.size + sizeItems rest

/-- The size of several keys and values. -/
def sizeEntries : List (Node × Node) → Nat
  | [] => 0
  | (k, v) :: rest => k.size + v.size + sizeEntries rest

end

mutual

/-- The nodes with an anchor and their slots, each node before the nodes inside it. -/
def anchored : Node → List (Nat × Node)
  | .scalar p text style => (p.slot.map (·, .scalar p text style)).toList
  | .sequence p items => (p.slot.map (·, .sequence p items)).toList ++ anchoredItems items
  | .mapping p entries => (p.slot.map (·, .mapping p entries)).toList ++ anchoredEntries entries
  | .aliasOf _ => []

/-- The nodes with an anchor in several nodes. -/
def anchoredItems : List Node → List (Nat × Node)
  | [] => []
  | n :: rest => n.anchored ++ anchoredItems rest

/-- The nodes with an anchor in several keys and values. -/
def anchoredEntries : List (Node × Node) → List (Nat × Node)
  | [] => []
  | (k, v) :: rest => k.anchored ++ v.anchored ++ anchoredEntries rest

end

end Node

/-- A document: its root, if it has one, and the node of each slot. The last node that takes a
slot holds it. -/
structure Document where
  root : Option Node
  slots : List (Nat × Node)
  deriving Repr

namespace Document

/-- The document with a root. -/
def ofRoot (root : Option Node) : Document :=
  ⟨root, (root.map Node.anchored).getD [] |>.reverse⟩

/-- The node that an alias stands for. -/
def slot? (d : Document) (slot : Nat) : Option Node := d.slots.lookup slot

/-- How many aliases may be followed while reading the document. -/
def aliasLimit (d : Document) : Nat := 100 * (d.root.map Node.size).getD 1

end Document

end LayeredConfig.Yaml
