import LayeredConfig.Leaf

/-
  Merge strategies. The first character of a key in a configuration file decides how its value
  combines with the value that earlier files gave.
-/

namespace LayeredConfig

/-- How an incoming value combines with the current one. -/
inductive Strategy where
  | set
  | append
  | prepend
  | replace
  | fill
  deriving Repr, DecidableEq

namespace Strategy

/-- The name of a strategy in reports. -/
def name : Strategy → String
  | .set => "override"
  | .append => "merge"
  | .prepend => "prepend"
  | .replace => "replace"
  | .fill => "default_if_unset"

/-- The strategy that a leading character selects. -/
def ofMark? (c : Char) : Option Strategy :=
  if c = '+' then some .append
  else if c = '^' then some .prepend
  else if c = '!' then some .replace
  else if c = '=' then some .fill
  else none

/-- The leading character of a strategy; `set` has none. -/
def mark : Strategy → List Char
  | .set => []
  | .append => ['+']
  | .prepend => ['^']
  | .replace => ['!']
  | .fill => ['=']

/-- A key as written, split into its strategy and the key proper. -/
def ofKey (key : String) : Strategy × String :=
  match key.toList with
  | [] => (.set, key)
  | c :: rest =>
    match ofMark? c with
    | some s => (s, String.ofList rest)
    | none => (.set, key)

/-- The new value, or none when the current one stays. Appending and prepending join lists and
set all other values. -/
def combine (s : Strategy) (current incoming : Leaf) : Option Leaf :=
  match s, current, incoming with
  | .append, .textList old, .textList new => some (.textList (old ++ new))
  | .prepend, .textList old, .textList new => some (.textList (new ++ old))
  | .fill, current, incoming => if current.isZero then some incoming else none
  | _, _, incoming => some incoming

end Strategy

end LayeredConfig
