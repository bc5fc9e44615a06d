import LayeredConfig.Field
import LayeredConfig.Operation
import LayeredConfig.Problem

/-
  Merging into a document. Operations are applied one after another; one that names no field, or
  whose value does not fit its field, is left out and reported. A whole document is merged by
  copying the leaves that differ from the defaults.
-/

namespace LayeredConfig

namespace Merge

/-- The leaf at a path. -/
def leafAt? (fields : List Field) (path : String) : Option Field :=
  fields.findRev? fun f => !f.isRecord && f.path == path

/-- Some field lies below the path. -/
def isRecordPath (fields : List Field) (path : String) : Bool :=
  fields.any fun f =>
    match Text.dropStart? path.toList f.path.toList with
    | some ('.' :: _) => true
    | _ => false

/-- What an operation does to a document. -/
inductive Effect where
  | keep
  | assign (value : Value)
  | reject (problem : Problem)
  deriving Repr, DecidableEq

/-- A null clears the value at its key, unless the operation only fills what is unset. -/
def clearEffect (s : Strategy) : Effect :=
  if s = .fill then .keep else .assign .null

/-- The effect of an operation on a leaf. -/
def leafEffect (document : Value) (op : Operation) (field : Field) (source : FilePath) : Effect :=
  let mismatch := Effect.reject (.typeMismatch op.key field.kind.name source)
  if op.value.isNull then if field.isOptional then clearEffect op.strategy else mismatch
  else
    match Leaf.ofValue? field.kind op.value,
      Leaf.ofNode? field.kind (document.get? op.key) with
    | some incoming, some current =>
      match op.strategy.combine current incoming with
      | some leaf => .assign leaf.toValue
      | none => .keep
    | _, _ => mismatch

/-- The effect of an operation. -/
def effect (document : Value) (op : Operation) (fields : List Field) (source : FilePath) :
    Effect :=
  match leafAt? fields op.key with
  | some field => leafEffect document op field source
  | none =>
    if isRecordPath fields op.key then
      if op.value.isNull then clearEffect op.strategy
      else .reject (.typeMismatch op.key Kind.record.name source)
    else .reject (.unknownField op.key source)

/-- The document after one operation, and the problem if it was rejected. -/
def step (document : Value) (op : Operation) (fields : List Field) (source : FilePath) :
    Value × Option Problem :=
  match effect document op fields source with
  | .keep => (document, none)
  | .assign value => (document.assign op.key value, none)
  | .reject problem => (document, some problem)

/-- Applies the operations of one file in order. The answer is the document and the problems of
the operations that were rejected. -/
def apply (document : Value) (ops : List Operation) (fields : List Field) (source : FilePath) :
    Value × List Problem :=
  match ops with
  | [] => (document, [])
  | op :: rest =>
    let (document, problem) := step document op fields source
    let (document, problems) := apply document rest fields source
    (document, problem.toList ++ problems)

/-- Copies one leaf of `loaded` unless it is the default. -/
def mergeLeaf (loaded defaults : Value) (result : Value) (field : Field) : Value :=
  let node := loaded.get? field.path
  if Leaf.ofNode? field.kind node = Leaf.ofNode? field.kind (defaults.get? field.path) then result
  else
    match node with
    | some value => result.assign field.path value
    | none => result

/-- Copies every leaf of `loaded` that differs from the default. -/
def overDefaults (result loaded defaults : Value) (fields : List Field) : Value :=
  (fields.filter fun f => !f.isRecord).foldl (mergeLeaf loaded defaults) result

end Merge

end LayeredConfig
