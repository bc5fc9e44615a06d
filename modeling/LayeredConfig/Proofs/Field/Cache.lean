import LayeredConfig.Field.Cache
import LayeredConfig.Proofs.Shape.Leaves
import Mathlib.Data.List.Induction

/-
  What a cache answers is what discovery without a cache answers.

  A history of uses either left the leaves of one shape behind, those that the last storing step was
  for, or nothing that counts (`Reflects`). One use stores, invalidates or keeps what is there
  (`Outcome`), so the cache reflects every history (`reflects_after`), by induction over the
  history from its end. `cache_transparent` reads the answers off: they are right as long as
  no other shape in the history has the fingerprint of the one that is asked for. A cache that holds
  the leaves of a shape goes on to hold them (`discover_holding`).
-/

namespace LayeredConfig

namespace Shape

/-- The leaves of a document type carry no values. -/
theorem map_withoutValue_metadata (shape : Shape) :
    shape.metadata.map Field.withoutValue = shape.metadata := by
  have h : ∀ f ∈ shape.metadata, f.withoutValue = id f := by
    intro f hf
    rw [Field.withoutValue, ← value_of_mem_metadata hf]
    rfl
  rw [List.map_congr_left h, List.map_id]

end Shape

namespace FieldCache

/-! ## A cache that holds the leaves of a shape -/

/-- The cache that holds the leaves of a shape. -/
def holding (shape : Shape) : FieldCache := ⟨some ⟨shape.metadata, shape.fingerprint, true⟩⟩

theorem get?_holding (shape : Shape) : (holding shape).get? shape = some shape.metadata := by
  simp [get?, holding, shape.map_withoutValue_metadata]

/-- Every discovery in a document of the shape reads its own values, and the cache stays. -/
theorem discover_holding (shape : Shape) (document : Value) :
    (holding shape).discover shape document = (shape.discover document, holding shape) := by
  rw [discover, get?_holding]
  rfl

/-- The leaves of two documents, read one after the other, and the cache afterwards. -/
def discoverBoth (cache : FieldCache) (shape : Shape) (first second : Value) :
    (List Field × List Field) × FieldCache :=
  let (fields, cache) := cache.discover shape first
  let (more, cache) := cache.discover shape second
  ((fields, more), cache)

theorem discoverBoth_holding (shape : Shape) (first second : Value) :
    (holding shape).discoverBoth shape first second =
      ((shape.discover first, shape.discover second), holding shape) := by
  simp only [discoverBoth, discover_holding]

theorem metadata_empty (shape : Shape) : (empty.metadata shape).2 = holding shape := by
  show empty.set shape shape.metadata = holding shape
  rw [set, shape.map_withoutValue_metadata, holding]

/-! ## Histories -/

/-- A use of a cache. A document comes as its value tree or as the error of writing the tree. -/
inductive Step (ε : Type) where
  | discover (shape : Shape) (tree : Except ε Value)
  | metadata (shape : Shape)
  | get (shape : Shape)
  | set (shape : Shape) (fields : List Field)
  | invalidate

/-- The shape that a step is about. -/
def Step.shape? {ε : Type} : Step ε → Option Shape
  | .discover shape _ | .metadata shape | .get shape | .set shape _ => some shape
  | .invalidate => none

variable {ε : Type}

/-- The cache after one step. -/
def next (cache : FieldCache) : Step ε → FieldCache
  | .discover shape tree => (cache.discoverFrom shape tree).2
  | .metadata shape => (cache.metadata shape).2
  | .get _ => cache
  | .set shape fields => cache.set shape fields
  | .invalidate => cache.invalidate

/-- The cache after the steps of a history, the oldest first. -/
def after (history : List (Step ε)) : FieldCache := history.foldl next empty

/-- The fields are those of a shape, as discovery gives them with values or without. -/
def Discovered (shape : Shape) (fields : List Field) : Prop :=
  fields.map Field.withoutValue = shape.metadata

/-- The step stores leaves for a shape: it sets them, or it had to look for them because the cache
had none to give. -/
inductive Stores (cache : FieldCache) : Step ε → Shape → Prop
  | discover {shape : Shape} (document : Value) (hmiss : cache.get? shape = none) :
    Stores cache (.discover shape (.ok document)) shape
  | metadata {shape : Shape} (hmiss : cache.get? shape = none) :
    Stores cache (.metadata shape) shape
  | set {shape : Shape} (fields : List Field) : Stores cache (.set shape fields) shape

/-- The last storing step was for the shape, and the cache was not invalidated after it. -/
def Held (history : List (Step ε)) (shape : Shape) : Prop :=
  ∃ before step later, history = before ++ step :: later ∧ Stores (after before) step shape ∧
    ∀ between step' rest, later = between ++ step' :: rest →
      step' ≠ .invalidate ∧ ∀ other, ¬ Stores (after (before ++ step :: between)) step' other

variable {cache : FieldCache} {step : Step ε} {history : List (Step ε)} {shape other : Shape}

theorem discovered_metadata (shape : Shape) : Discovered shape shape.metadata :=
  shape.map_withoutValue_metadata

theorem discovered_discover (shape : Shape) (document : Value) :
    Discovered shape (shape.discover document) := by
  rw [Discovered, Shape.discover, List.map_map]
  exact shape.map_withoutValue_metadata

theorem Stores.unique (h : Stores cache step shape) (h' : Stores cache step other) :
    other = shape := by
  cases h <;> cases h' <;> rfl

theorem Stores.shape?_eq (h : Stores cache step shape) : step.shape? = some shape := by
  cases h <;> rfl

theorem Held.exists_mem (h : Held history shape) :
    ∃ step ∈ history, step.shape? = some shape := by
  obtain ⟨before, step, later, rfl, hstores, -⟩ := h
  exact ⟨step, by simp, hstores.shape?_eq⟩

theorem after_append_singleton (history : List (Step ε)) (step : Step ε) :
    after (history ++ [step]) = (after history).next step := by
  rw [after, List.foldl_append]
  rfl

theorem not_held_nil : ¬ Held ([] : List (Step ε)) shape := by
  rintro ⟨before, step, later, heq, -⟩
  simp at heq

/-- What is held after one more step: what the step stores, or else what was held before. -/
theorem held_append_singleton :
    Held (history ++ [step]) shape ↔ Stores (after history) step shape ∨
      (Held history shape ∧ step ≠ .invalidate ∧ ∀ other, ¬ Stores (after history) step other) := by
  constructor
  · rintro ⟨before, last, later, heq, hstores, hquiet⟩
    -- either the new step stored, or it is the last of the steps after the one that did
    rcases List.eq_nil_or_concat later with rfl | ⟨more, final, rfl⟩
    · obtain ⟨rfl, hlast⟩ := List.append_inj' heq rfl
      cases hlast
      exact .inl hstores
    · rw [List.concat_eq_append] at heq hquiet
      have hsplit : history ++ [step] = (before ++ last :: more) ++ [final] := by simpa using heq
      obtain ⟨rfl, hfinal⟩ := List.append_inj' hsplit rfl
      cases hfinal
      refine .inr ⟨⟨before, last, more, rfl, hstores, ?_⟩, hquiet more step [] rfl⟩
      intro between step' rest hmore
      exact hquiet between step' (rest ++ [step]) (by simp [hmore])
  · rintro (hstores | ⟨⟨before, last, later, rfl, hstores, hquiet⟩, hstep⟩)
    · refine ⟨history, step, [], rfl, hstores, ?_⟩
      intro between step' rest hnil
      simp at hnil
    · refine ⟨before, last, later ++ [step], by simp, hstores, ?_⟩
      intro between step' rest hlater
      rcases List.eq_nil_or_concat rest with rfl | ⟨more, final, rfl⟩
      · obtain ⟨rfl, hfinal⟩ := List.append_inj' hlater rfl
        cases hfinal
        exact hstep
      · have hsplit : later ++ [step] = (between ++ step' :: more) ++ [final] := by
          simpa using hlater
        obtain ⟨rfl, -⟩ := List.append_inj' hsplit rfl
        exact hquiet between step' more rfl

/-! ## One step -/

/-- What a step makes of a cache. -/
inductive Outcome (cache : FieldCache) (step : Step ε) : FieldCache → Prop
  | stored {shape : Shape} {fields : List Field} (h : Stores cache step shape)
    (hfields : Discovered shape fields) : Outcome cache step (cache.set shape fields)
  | invalidated (h : step = .invalidate) : Outcome cache step cache.invalidate
  | kept (hinvalidate : step ≠ .invalidate) (hquiet : ∀ shape, ¬ Stores cache step shape) :
    Outcome cache step cache

theorem outcome_discover (cache : FieldCache) (shape : Shape) (document : Value) :
    Outcome cache (.discover shape (.ok document) : Step ε) (cache.discover shape document).2 := by
  unfold discover
  split
  · next fields hhit =>
    refine .kept (by simp) ?_
    rintro _ (⟨_, hmiss⟩)
    rw [hhit] at hmiss
    cases hmiss
  · next hmiss => exact .stored (.discover document hmiss) (discovered_discover shape document)

theorem outcome_metadata (cache : FieldCache) (shape : Shape) :
    Outcome cache (.metadata shape : Step ε) (cache.metadata shape).2 := by
  unfold metadata
  split
  · next fields hhit =>
    refine .kept (by simp) ?_
    rintro _ (_ | hmiss)
    rw [hhit] at hmiss
    cases hmiss
  · next hmiss => exact .stored (.metadata hmiss) (discovered_metadata shape)

theorem outcome_next (cache : FieldCache) (step : Step ε)
    (hset : ∀ shape fields, step = .set shape fields → Discovered shape fields) :
    Outcome cache step (cache.next step) := by
  cases step with
  | discover shape tree =>
    cases tree with
    | ok document => exact outcome_discover cache shape document
    | error e => exact .kept (by simp) (by rintro _ ⟨⟩)
  | metadata shape => exact outcome_metadata cache shape
  | get shape => exact .kept (by simp) (by rintro _ ⟨⟩)
  | set shape fields => exact .stored (.set fields) (hset shape fields rfl)
  | invalidate => exact .invalidated rfl

/-! ## Runs -/

/-- A cache holds the leaves of the shape that the history left behind, or nothing that counts. -/
inductive Reflects (history : List (Step ε)) : FieldCache → Prop
  | holding {shape : Shape} (h : ∀ other, Held history other ↔ other = shape) :
    Reflects history ⟨some ⟨shape.metadata, shape.fingerprint, true⟩⟩
  | vacant {cache : FieldCache} (h : ∀ other, ¬ Held history other)
    (hcache : cache.isStored = false) : Reflects history cache

@[simp] theorem isStored_invalidate (cache : FieldCache) : cache.invalidate.isStored = false := by
  obtain ⟨entry⟩ := cache
  cases entry <;> rfl

theorem Reflects.next (h : Reflects history (after history))
    (hset : ∀ shape fields, step = .set shape fields → Discovered shape fields) :
    Reflects (history ++ [step]) (after (history ++ [step])) := by
  rw [after_append_singleton]
  have hout := outcome_next (after history) step hset
  generalize (after history).next step = cache at hout
  cases hout with
  | @stored shape fields hstores hfields =>
    rw [set, hfields]
    refine .holding fun other => ?_
    rw [held_append_singleton]
    constructor
    · rintro (hother | ⟨-, -, hquiet⟩)
      · exact hstores.unique hother
      · exact absurd hstores (hquiet shape)
    · rintro rfl
      exact .inl hstores
  | invalidated hinvalidate =>
    subst hinvalidate
    refine .vacant (fun other => ?_) (isStored_invalidate _)
    rw [held_append_singleton]
    rintro (hstores | ⟨-, hne, -⟩)
    · cases hstores
    · exact hne rfl
  | kept hinvalidate hquiet =>
    have hsame : ∀ other, Held (history ++ [step]) other ↔ Held history other := by
      intro other
      rw [held_append_singleton]
      constructor
      · rintro (hother | hheld)
        · exact absurd hother (hquiet other)
        · exact hheld.1
      · exact fun hheld => .inr ⟨hheld, hinvalidate, hquiet⟩
    generalize after history = cache at h ⊢
    cases h with
    | holding h => exact .holding fun other => (hsame other).trans (h other)
    | vacant h hcache => exact .vacant (fun other => (hsame other).not.mpr (h other)) hcache

/-- The cache reflects every history that sets only discovered fields. -/
theorem reflects_after
    (hset : ∀ shape fields, Step.set shape fields ∈ history → Discovered shape fields) :
    Reflects history (after history) := by
  induction history using List.reverseRecOn with
  | nil => exact .vacant (fun _ => not_held_nil) rfl
  | append_singleton history step ih =>
    have hbefore := ih fun shape fields h => hset shape fields (List.mem_append_left _ h)
    refine hbefore.next ?_
    rintro shape fields rfl
    exact hset shape fields (by simp)

/-! ## Answers -/

theorem get?_of_not_isStored (h : cache.isStored = false) (shape : Shape) :
    cache.get? shape = none := by
  obtain ⟨entry⟩ := cache
  cases entry with
  | none => rfl
  | some entry =>
    obtain ⟨fields, fingerprint, valid⟩ := entry
    obtain rfl : valid = false := h
    rfl

theorem get?_after
    (hset : ∀ s fields, Step.set s fields ∈ history → Discovered s fields)
    (hdistinct : ∀ step ∈ history, ∀ s, step.shape? = some s →
      s.fingerprint = shape.fingerprint → s = shape) :
    (Held history shape → (after history).get? shape = some shape.metadata) ∧
      (¬ Held history shape → (after history).get? shape = none) := by
  have hreflects := reflects_after hset
  generalize after history = cache at hreflects
  cases hreflects with
  | @holding stored h =>
    by_cases heq : shape = stored
    · subst heq
      refine ⟨fun _ => ?_, fun hnot => absurd ((h shape).mpr rfl) hnot⟩
      simp [get?, Shape.map_withoutValue_metadata]
    · refine ⟨fun hheld => absurd ((h shape).mp hheld) heq, fun _ => ?_⟩
      obtain ⟨step, hmem, hstep⟩ := ((h stored).mpr rfl).exists_mem
      have hne : stored.fingerprint ≠ shape.fingerprint := fun hfingerprint =>
        heq (hdistinct step hmem stored hstep hfingerprint).symm
      simp [get?, hne]
  | vacant h hcache =>
    exact ⟨fun hheld => absurd hheld (h shape), fun _ => get?_of_not_isStored hcache shape⟩

theorem isStored_after
    (hset : ∀ s fields, Step.set s fields ∈ history → Discovered s fields) :
    (after history).isStored = true ↔ ∃ stored, Held history stored := by
  have hreflects := reflects_after hset
  generalize after history = cache at hreflects
  cases hreflects with
  | @holding stored h => exact ⟨fun _ => ⟨stored, (h stored).mpr rfl⟩, fun _ => rfl⟩
  | vacant h hcache =>
    rw [hcache]
    exact ⟨fun hfalse => (Bool.false_ne_true hfalse).elim, fun ⟨stored, hheld⟩ =>
      absurd hheld (h stored)⟩

/-- A cache that gives a shape its own leaves or none discovers what discovery without it does. -/
theorem discoverFrom_fst (h : ∀ fields, cache.get? shape = some fields → fields = shape.metadata)
    (tree : Except ε Value) : (cache.discoverFrom shape tree).1 = tree.map shape.discover := by
  cases tree with
  | error e => rfl
  | ok document =>
    show Except.ok (cache.discover shape document).1 = Except.ok (shape.discover document)
    unfold discover
    split
    · next fields hhit =>
      rw [h fields hhit]
      rfl
    · rfl

theorem metadata_fst (h : ∀ fields, cache.get? shape = some fields → fields = shape.metadata) :
    (cache.metadata shape).1 = shape.metadata := by
  unfold metadata
  split
  · next fields hhit => exact h fields hhit
  · rfl

/-- After every history of steps, discovery through the cache answers as discovery without it, and
the cache gives the leaves of a shape without values exactly while it holds that shape. -/
theorem cache_transparent (history : List (Step ε)) (shape : Shape)
    (hset : ∀ s fields, Step.set s fields ∈ history → Discovered s fields)
    (hdistinct : ∀ step ∈ history, ∀ s, step.shape? = some s →
      s.fingerprint = shape.fingerprint → s = shape) :
    (∀ tree : Except ε Value,
        ((after history).discoverFrom shape tree).1 = tree.map shape.discover) ∧
      ((after history).metadata shape).1 = shape.metadata ∧
      (Held history shape → (after history).get? shape = some shape.metadata) ∧
      (¬ Held history shape → (after history).get? shape = none) ∧
      (∀ f ∈ shape.metadata, f.value = none) ∧
      ((after history).isStored = true ↔ ∃ stored, Held history stored) := by
  obtain ⟨hheld, hnot⟩ := get?_after hset hdistinct
  have hown : ∀ fields, (after history).get? shape = some fields → fields = shape.metadata := by
    intro fields hfields
    by_cases h : Held history shape
    · rw [hheld h] at hfields
      exact (Option.some.inj hfields).symm
    · rw [hnot h] at hfields
      cases hfields
  exact ⟨discoverFrom_fst hown, metadata_fst hown, hheld, hnot,
    fun f hf => Shape.value_of_mem_metadata hf, isStored_after hset⟩

/-- A document type with one field. -/
def beforeShape : Shape := .record "Settings" [⟨"name", "name", .text⟩]

/-- The same document type with a field more. -/
def afterShape : Shape :=
  .record "Settings" [⟨"name", "name", .text⟩, ⟨"retries", "retries", .number⟩]

/-- A document of the first type. -/
def beforeDocument : Value := .object [("name", .string "a")]

/-- Uses before the type was changed, and a look at the leaves after it. -/
def changedHistory : List (Step Unit) :=
  [.discover beforeShape (.ok beforeDocument), .invalidate,
    .set beforeShape (beforeShape.discover beforeDocument), .get beforeShape, .metadata afterShape]

/-- The cache goes over to the changed type. A document without a tree is answered with its error,
though the cache has leaves for it. -/
theorem cache_transparent_changed :
    Held changedHistory afterShape ∧
      (after changedHistory).get? afterShape = some afterShape.metadata ∧
      ((after changedHistory).discoverFrom afterShape (.error ())).1 = .error () := by
  have hfingerprint : beforeShape.fingerprint ≠ afterShape.fingerprint := by decide +kernel
  have hmiss : (after (changedHistory.take 4)).get? afterShape = none := by decide +kernel
  have hheld : Held changedHistory afterShape :=
    ⟨changedHistory.take 4, .metadata afterShape, [], rfl, .metadata hmiss, by simp⟩
  have hset : ∀ s fields, Step.set s fields ∈ changedHistory → Discovered s fields := by
    intro s fields hmem
    have heq : s = beforeShape ∧ fields = beforeShape.discover beforeDocument := by
      simpa [changedHistory] using hmem
    rw [heq.1, heq.2]
    exact discovered_discover beforeShape beforeDocument
  have hdistinct : ∀ step ∈ changedHistory, ∀ s, step.shape? = some s →
      s.fingerprint = afterShape.fingerprint → s = afterShape := by
    intro step hstep s hs hsame
    have hshape : s = beforeShape ∨ s = afterShape := by
      simp only [changedHistory, List.mem_cons, List.not_mem_nil, or_false] at hstep
      rcases hstep with rfl | rfl | rfl | rfl | rfl <;> cases hs <;> simp
    rcases hshape with rfl | rfl
    · exact absurd hsame hfingerprint
    · rfl
  have hrun := cache_transparent changedHistory afterShape hset hdistinct
  exact ⟨hheld, hrun.2.2.1 hheld, hrun.1 (.error ())⟩

end FieldCache

end LayeredConfig
