import LayeredConfig.Proofs.Merge.Locality
import LayeredConfig.Proofs.Shape.Leaves

/-
  Rejected operations leave no trace. Whether an operation is rejected, and how, is told from the
  fields alone (`rejection?`, `rejection?_eq_some_iff`): where every leaf of the document can be
  read, one step reports just that (`step_problem`), and no step makes a leaf unreadable. So the
  operations of a file report their rejections one by one, and the rejected ones can be left out
  of the file (`rejected_independently`).
-/

namespace LayeredConfig

open Value

namespace Merge

variable {fields : List Field} {document : Value} {op : Operation} {source : FilePath}

/-! ## Leaves by their paths -/

theorem leafAt?_eq_none_iff (hs : Separate fields) {path : String} :
    leafAt? fields path = none ↔ ∀ f ∈ fields, f.path ≠ path := by
  rw [leafAt?_eq_find?, List.find?_eq_none]
  constructor
  · intro h f hf hpath
    have hnot := h f (List.mem_reverse.mpr hf)
    simp [hs.isRecord_eq f hf, hpath] at hnot
  · intro h f hf
    simp [h f (List.mem_reverse.mp hf)]

theorem leafAt?_eq_some_iff (hs : Separate fields) {path : String} {f : Field} :
    leafAt? fields path = some f ↔ f ∈ fields ∧ f.path = path := by
  refine ⟨of_leafAt?_eq_some, fun ⟨hf, hpath⟩ => ?_⟩
  cases hleaf : leafAt? fields path with
  | none => exact absurd hpath ((leafAt?_eq_none_iff hs).mp hleaf f hf)
  | some g =>
    obtain ⟨hg, hgpath⟩ := of_leafAt?_eq_some hleaf
    have hsame : g.path = f.path := hgpath.trans hpath.symm
    rw [hs.eq_of_prefix hg hf (hsame ▸ List.prefix_rfl)]

/-- No leaf stands at the place of a record. -/
theorem leafAt?_of_isRecordPath (hs : Separate fields) {path : String}
    (h : isRecordPath fields path = true) : leafAt? fields path = none := by
  obtain ⟨f, hf, rest, hrest⟩ := isRecordPath_iff.mp h
  rw [leafAt?_eq_none_iff hs]
  rintro g hg rfl
  have heq := hs.eq_of_prefix hg hf (segments_prefix_iff.mpr (.inr ⟨rest, hrest⟩))
  subst heq
  have hlength := congrArg (fun path => path.toList.length) hrest
  simp [String.toList_append] at hlength

/-! ## Rejections -/

/-- Why an operation on a leaf is rejected, if it is. -/
def leafRejection? (f : Field) (source : FilePath) (op : Operation) : Option Problem :=
  let mismatch := Problem.typeMismatch op.key f.kind.name source
  if op.value.isNull then if f.isOptional then none else some mismatch
  else
    match Leaf.ofValue? f.kind op.value with
    | some _ => none
    | none => some mismatch

/-- Why an operation is rejected, if it is, as the fields tell it. -/
def rejection? (fields : List Field) (source : FilePath) (op : Operation) : Option Problem :=
  match leafAt? fields op.key with
  | some f => leafRejection? f source op
  | none =>
    if isRecordPath fields op.key then
      if op.value.isNull then none else some (.typeMismatch op.key Kind.record.name source)
    else some (.unknownField op.key source)

/-- The operation is rejected with a problem: its key names nothing, it gives a value to a record,
null to a leaf that cannot be absent, or to a leaf a value of another kind. -/
inductive Rejected (fields : List Field) (source : FilePath) (op : Operation) : Problem → Prop
  | unknown (hleaf : ∀ f ∈ fields, f.path ≠ op.key)
    (hrecord : ¬ ∃ f ∈ fields, ∃ rest, f.path = op.key ++ "." ++ rest) :
    Rejected fields source op (.unknownField op.key source)
  | record (hrecord : ∃ f ∈ fields, ∃ rest, f.path = op.key ++ "." ++ rest)
    (hvalue : op.value.isNull = false) :
    Rejected fields source op (.typeMismatch op.key Kind.record.name source)
  | null {f : Field} (hf : f ∈ fields) (hpath : f.path = op.key) (hvalue : op.value.isNull = true)
    (hopt : f.isOptional = false) :
    Rejected fields source op (.typeMismatch op.key f.kind.name source)
  | kind {f : Field} (hf : f ∈ fields) (hpath : f.path = op.key)
    (hvalue : op.value.isNull = false) (hkind : Leaf.ofValue? f.kind op.value = none) :
    Rejected fields source op (.typeMismatch op.key f.kind.name source)

theorem rejected_of_leafRejection? {f : Field} (hf : f ∈ fields) (hpath : f.path = op.key)
    {problem : Problem} (h : leafRejection? f source op = some problem) :
    Rejected fields source op problem := by
  unfold leafRejection? at h
  dsimp only at h
  split at h
  · next hnull =>
    split at h
    · cases h
    · next hopt =>
      cases h
      exact .null hf hpath hnull (Bool.eq_false_iff.mpr hopt)
  · next hnull =>
    split at h
    · cases h
    · next hkind =>
      cases h
      exact .kind hf hpath (Bool.eq_false_iff.mpr hnull) hkind

/-- The fields tell the grounds of each rejection. -/
theorem rejection?_eq_some_iff (hs : Separate fields) {problem : Problem} :
    rejection? fields source op = some problem ↔ Rejected fields source op problem := by
  constructor
  · intro h
    unfold rejection? at h
    split at h
    · next f hleaf =>
      obtain ⟨hf, hpath⟩ := of_leafAt?_eq_some hleaf
      exact rejected_of_leafRejection? hf hpath h
    · next hleaf =>
      split at h
      · next hrecord =>
        split at h
        · cases h
        · next hnull =>
          cases h
          exact .record (isRecordPath_iff.mp hrecord) (Bool.eq_false_iff.mpr hnull)
      · next hrecord =>
        cases h
        exact .unknown ((leafAt?_eq_none_iff hs).mp hleaf) fun hex =>
          hrecord (isRecordPath_iff.mpr hex)
  · intro h
    unfold rejection?
    cases h with
    | unknown hleaf hrecord =>
      rw [(leafAt?_eq_none_iff hs).mpr hleaf]
      exact if_neg fun hpath => hrecord (isRecordPath_iff.mp hpath)
    | record hrecord hvalue =>
      have hpath := isRecordPath_iff.mpr hrecord
      simp [leafAt?_of_isRecordPath hs hpath, hpath, hvalue]
    | null hf hpath hvalue hopt =>
      simp [(leafAt?_eq_some_iff hs).mpr ⟨hf, hpath⟩, leafRejection?, hvalue, hopt]
    | kind hf hpath hvalue hkind =>
      simp [(leafAt?_eq_some_iff hs).mpr ⟨hf, hpath⟩, leafRejection?, hvalue, hkind]

/-! ## One step -/

/-- The problem that an effect reports. -/
def Effect.problem? : Effect → Option Problem
  | .keep | .assign _ => none
  | .reject problem => some problem

theorem step_snd (document : Value) (op : Operation) (fields : List Field) (source : FilePath) :
    (step document op fields source).2 = (effect document op fields source).problem? := by
  unfold step
  split <;> next h => rw [h]; rfl

@[simp] theorem problem?_clearEffect (s : Strategy) : (clearEffect s).problem? = none := by
  unfold clearEffect
  split <;> rfl

/-- On a leaf that can be read, the document has no say in the rejection. -/
theorem problem?_leafEffect {f : Field} {current : Leaf}
    (hcurrent : Leaf.ofNode? f.kind (document.get? op.key) = some current) :
    (leafEffect document op f source).problem? = leafRejection? f source op := by
  unfold leafEffect leafRejection?
  dsimp only
  split
  · split
    · exact problem?_clearEffect _
    · rfl
  · rw [hcurrent]
    cases Leaf.ofValue? f.kind op.value with
    | none => rfl
    | some incoming =>
      dsimp only
      cases op.strategy.combine current incoming <;> rfl

/-- One step reports what the fields tell, whatever the document holds. -/
theorem step_problem (hr : Readable fields document) (op : Operation) (source : FilePath) :
    (step document op fields source).2 = rejection? fields source op := by
  rw [step_snd]
  unfold effect rejection?
  cases hleaf : leafAt? fields op.key with
  | some f =>
    obtain ⟨hf, hpath⟩ := of_leafAt?_eq_some hleaf
    obtain ⟨current, hcurrent⟩ := hr f hf
    rw [Field.valueIn, hpath] at hcurrent
    exact problem?_leafEffect hcurrent
  | none =>
    dsimp only
    split
    · split
      · exact problem?_clearEffect _
      · rfl
    · rfl

/-- A rejected operation leaves the document as it is. -/
theorem step_of_rejected {problem : Problem}
    (h : (step document op fields source).2 = some problem) :
    (step document op fields source).1 = document := by
  unfold step at h ⊢
  split at h <;> first | rfl | cases h

/-! ## Runs -/

/-- A run reports the rejections of its operations in their order. -/
theorem apply_problems (hs : Separate fields) (hr : Readable fields document)
    (ops : List Operation) (source : FilePath) :
    (apply document ops fields source).2 = ops.filterMap (rejection? fields source) := by
  induction ops generalizing document with
  | nil => rfl
  | cons op rest ih =>
    rw [apply_cons, ih (readable_step hs hr op source), step_problem hr, List.filterMap_cons]
    cases rejection? fields source op <;> rfl

/-- Without its rejected operations a run makes the same document and reports nothing. -/
theorem apply_filter (hs : Separate fields) (hr : Readable fields document)
    (ops : List Operation) (source : FilePath) :
    apply document (ops.filter fun op => (rejection? fields source op).isNone) fields source =
      ((apply document ops fields source).1, []) := by
  induction ops generalizing document with
  | nil => rfl
  | cons op rest ih =>
    have hstep := step_problem hr op source
    rw [List.filter_cons, apply_cons]
    cases hrejection : rejection? fields source op with
    | some problem =>
      rw [hrejection] at hstep
      rw [if_neg (by simp), ih hr, step_of_rejected hstep]
    | none =>
      rw [hrejection] at hstep
      rw [if_pos Option.isNone_none, apply_cons, ih (readable_step hs hr op source), hstep]
      rfl

/-- A leaf that is missing, null or of its kind can be read. -/
theorem readable_of_kinds (hs : Separate fields)
    (h : ∀ f ∈ fields, ∀ v, document.get? f.path = some v →
      v = .null ∨ ∃ leaf, Leaf.ofValue? f.kind v = some leaf) : Readable fields document := by
  intro f hf
  unfold Field.valueIn
  cases hnode : document.get? f.path with
  | none => exact Leaf.exists_zero (hs.kind_ne f hf)
  | some v =>
    rcases h f hf v hnode with rfl | hkind
    · exact Leaf.exists_zero (hs.kind_ne f hf)
    · cases v with
      | null => exact Leaf.exists_zero (hs.kind_ne f hf)
      | _ => exact hkind

/-- Over a regular document type, a document whose leaves are missing, null or of their kind, and
the operations of a file: the file reports one problem for each rejected operation, in order; the
operation and the fields alone decide which these are; and without the rejected operations the
file makes the same document and reports nothing. -/
theorem rejected_independently {shape : Shape} (hshape : shape.Regular) {document : Value}
    (hdoc : ∀ f ∈ shape.metadata, ∀ v, document.get? f.path = some v →
      v = .null ∨ ∃ leaf, Leaf.ofValue? f.kind v = some leaf)
    (ops : List Operation) (source : FilePath) :
    (apply document ops shape.metadata source).2 =
        ops.filterMap (rejection? shape.metadata source) ∧
      (∀ op problem, rejection? shape.metadata source op = some problem ↔
        Rejected shape.metadata source op problem) ∧
      apply document (ops.filter fun op => (rejection? shape.metadata source op).isNone)
          shape.metadata source =
        ((apply document ops shape.metadata source).1, []) := by
  have hs := Shape.separate_metadata hshape
  have hr := readable_of_kinds hs hdoc
  exact ⟨apply_problems hs hr ops source, fun _ _ => rejection?_eq_some_iff hs,
    apply_filter hs hr ops source⟩

/-- A record of a text, an optional text and an optional record. -/
def entryShape : Shape :=
  .record "Entry" [⟨"name", "name", .text⟩, ⟨"note", "note", .optional .text⟩,
    ⟨"checks", "checks", .optional (.record "Checks" [⟨"enabled", "enabled", .flag⟩])⟩]

/-- An entry with a name, a null for its note and no checks. -/
def entryDocument : Value := .object [("name", .string "a"), ("note", .null)]

/-- Operations of which the second and the fifth are accepted. -/
def entryOperations : List Operation :=
  [⟨.set, "name", .null⟩, ⟨.set, "checks.enabled", .bool true⟩, ⟨.set, "checks", .bool true⟩,
    ⟨.set, "size", .int 3⟩, ⟨.set, "note", .string "b"⟩, ⟨.set, "checks.enabled", .string "on"⟩]

/-- An entry after operations that are rejected on all four grounds. -/
theorem rejected_independently_entry :
    (apply entryDocument entryOperations entryShape.metadata ⟨"entry.yml"⟩).2 =
        [.typeMismatch "name" "string" ⟨"entry.yml"⟩, .typeMismatch "checks" "record" ⟨"entry.yml"⟩,
          .unknownField "size" ⟨"entry.yml"⟩, .typeMismatch "checks.enabled" "bool" ⟨"entry.yml"⟩] ∧
      apply entryDocument
          [⟨.set, "checks.enabled", .bool true⟩, ⟨.set, "note", .string "b"⟩]
          entryShape.metadata ⟨"entry.yml"⟩ =
        ((apply entryDocument entryOperations entryShape.metadata ⟨"entry.yml"⟩).1, []) := by
  have hshape : entryShape.Regular := by
    simp [entryShape, Shape.Regular, Shape.FieldsRegular, Shape.isOptional]
  have hnodes : ∀ f ∈ entryShape.metadata, (entryDocument.get? f.path).all
      (fun v => decide (v = .null) || (Leaf.ofValue? f.kind v).isSome) = true := by
    decide +kernel
  have hdoc : ∀ f ∈ entryShape.metadata, ∀ v, entryDocument.get? f.path = some v →
      v = .null ∨ ∃ leaf, Leaf.ofValue? f.kind v = some leaf := by
    intro f hf v hv
    have hnode := hnodes f hf
    rw [hv] at hnode
    simpa [Option.isSome_iff_exists] using hnode
  have hrun := rejected_independently hshape hdoc entryOperations ⟨"entry.yml"⟩
  have hproblems : entryOperations.filterMap (rejection? entryShape.metadata ⟨"entry.yml"⟩) =
      [.typeMismatch "name" "string" ⟨"entry.yml"⟩, .typeMismatch "checks" "record" ⟨"entry.yml"⟩,
        .unknownField "size" ⟨"entry.yml"⟩,
        .typeMismatch "checks.enabled" "bool" ⟨"entry.yml"⟩] := by
    decide +kernel
  have haccepted : (entryOperations.filter fun op =>
      (rejection? entryShape.metadata ⟨"entry.yml"⟩ op).isNone) =
      [⟨.set, "checks.enabled", .bool true⟩, ⟨.set, "note", .string "b"⟩] := by
    decide +kernel
  refine ⟨hrun.1.trans hproblems, ?_⟩
  rw [← haccepted]
  exact hrun.2.2

end Merge

end LayeredConfig
