import LayeredConfig.Strategy
import LayeredConfig.Yaml.Datum

/-
  Operations: what a configuration file asks for, one field at a time. Nested mappings are
  flattened into dotted keys. The mark of a mapping's key is the strategy of the keys inside it,
  except for those with a mark of their own.
-/

namespace LayeredConfig

/-- A value for the field at a dotted path, and how it combines with the current one. -/
structure Operation where
  strategy : Strategy
  key : String
  value : Value
  deriving Repr, DecidableEq

/-- Why a mapping is no list of operations. -/
inductive OperationFault where
  | keyNotText (key : Yaml.Datum)
  | noValue (key : String) (fault : Yaml.Datum.KeyFault)
  deriving Repr

/-- The text of a fault in messages. -/
def OperationFault.message : OperationFault → String
  | .keyNotText key => "non-string key " ++ key.display
  | .noValue key fault => key ++ ": " ++ fault.message

namespace Operation

/-- The strategy of a key inside a mapping whose own key has a strategy. -/
def inheritedStrategy (own : Strategy) (outer : Option Strategy) : Strategy :=
  match own, outer with
  | .set, some s => s
  | own, _ => own

/-- A key below the key of the mapping around it. -/
def keyBelow (outer : Option String) (key : String) : String :=
  match outer with
  | some p => p ++ "." ++ key
  | none => key

mutual

/-- The operations of one entry with a text key. -/
def ofEntry (parent : Option String) (inherited : Option Strategy) (rawKey : String) :
    Yaml.Datum → Except OperationFault (List Operation)
  | .mapping entries =>
    let (own, key) := Strategy.ofKey rawKey
    ofEntries (some (keyBelow parent key)) (some (inheritedStrategy own inherited)) entries
  | datum =>
    let (own, key) := Strategy.ofKey rawKey
    match datum.toValue with
    | .ok value => .ok [⟨inheritedStrategy own inherited, keyBelow parent key, value⟩]
    | .error fault => .error (.noValue (keyBelow parent key) fault)

/-- The operations of the entries of a mapping, in their order. -/
def ofEntries (parent : Option String) (inherited : Option Strategy) :
    List (Yaml.Datum × Yaml.Datum) → Except OperationFault (List Operation)
  | [] => .ok []
  | (k, v) :: rest =>
    match k.text? with
    | none => .error (.keyNotText k)
    | some rawKey => do
      let first ← ofEntry parent inherited rawKey v
      let others ← ofEntries parent inherited rest
      return first ++ others

end

/-- The operations of a mapping, in document order. -/
def collect (entries : List (Yaml.Datum × Yaml.Datum)) :
    Except OperationFault (List Operation) :=
  ofEntries none none entries

end Operation

end LayeredConfig
