import LayeredConfig.Field.Discovery
import LayeredConfig.Shape.Fingerprint

/-
  A cache with one place for the leaves of a document type. It is keyed by the fingerprint of
  the type's shape and holds no values: a hit reads them from the document at hand.
-/

namespace LayeredConfig

/-- The stored leaves of one document type. -/
structure FieldCache.Entry where
  fields : List Field
  fingerprint : String
  valid : Bool
  deriving Repr, DecidableEq

/-- A cache that is empty or holds one entry. -/
structure FieldCache where
  entry : Option FieldCache.Entry
  deriving Repr, DecidableEq

namespace FieldCache

/-- Nothing is stored. -/
def empty : FieldCache := ⟨none⟩

/-- The stored leaves, if they are valid and belong to this shape. -/
def get? (cache : FieldCache) (shape : Shape) : Option (List Field) :=
  match cache.entry with
  | some entry =>
    if entry.valid && entry.fingerprint == shape.fingerprint then
      some (entry.fields.map Field.withoutValue)
    else none
  | none => none

/-- Stores leaves for a shape, without their values. -/
def set (_cache : FieldCache) (shape : Shape) (fields : List Field) : FieldCache :=
  ⟨some ⟨fields.map Field.withoutValue, shape.fingerprint, true⟩⟩

/-- Marks the stored leaves as outdated. -/
def invalidate (cache : FieldCache) : FieldCache :=
  ⟨cache.entry.map fun entry => { entry with valid := false }⟩

/-- A valid entry is stored. -/
def isStored (cache : FieldCache) : Bool :=
  match cache.entry with
  | some entry => entry.valid
  | none => false

/-- The leaves of a document with their values, and the cache afterwards. -/
def discover (cache : FieldCache) (shape : Shape) (document : Value) :
    List Field × FieldCache :=
  match cache.get? shape with
  | some fields => (fields.map (Field.refresh · document), cache)
  | none =>
    let fields := shape.discover document
    (fields, cache.set shape fields)

/-- Discovery in a document whose value tree may fail to be written. The error is the answer then,
and nothing is stored. -/
def discoverFrom {ε : Type} (cache : FieldCache) (shape : Shape) (tree : Except ε Value) :
    Except ε (List Field) × FieldCache :=
  match tree with
  | .ok document =>
    let (fields, cache) := cache.discover shape document
    (.ok fields, cache)
  | .error e => (.error e, cache)

/-- The leaves of a document type without values, and the cache afterwards. -/
def metadata (cache : FieldCache) (shape : Shape) : List Field × FieldCache :=
  match cache.get? shape with
  | some fields => (fields, cache)
  | none =>
    let fields := shape.metadata
    (fields, cache.set shape fields)

end FieldCache

end LayeredConfig
