import LayeredConfig.Proofs.Merge.Rejection
import LayeredConfig.Proofs.Shape.Declarations
import LayeredConfig.Proofs.Value.Places

/-
  Where nulls may stand. A document may have null at the fields that are declared optional and
  nowhere else (`NullsAllowed`). Merging writes null at leaves that are declared optional, which
  keeps this, and at records, where it does not look whether the record is declared optional. So a
  document stays as it may be unless a required record that has leaves is cleared
  (`ClearsRequired`), and each operation that clears one spoils it (`nulls_stay_where_optional`).
  Null for a required leaf is reported and has no effect.
-/

namespace LayeredConfig

open Value

namespace Shape

/-! ## Fields by their places -/

/-- The declaration of the field at a place, inside the records and lists of a shape. -/
inductive FieldAt : Shape → List Value.Step → Declared Shape → Prop
  | here {shape : Shape} {inner : List (Declared Shape)} {d : Declared Shape}
    (hinner : shape.recordFields? = some inner) (hd : d ∈ inner) : FieldAt shape [.key d.tag] d
  | inside {shape : Shape} {inner : List (Declared Shape)} {e d : Declared Shape}
    {place : List Value.Step} (hinner : shape.recordFields? = some inner) (he : e ∈ inner)
    (h : FieldAt e.shape place d) : FieldAt shape (.key e.tag :: place) d
  | item {shape element : Shape} {index : Nat} {d : Declared Shape} {place : List Value.Step}
    (hlist : shape.required = .list element) (h : FieldAt element place d) :
    FieldAt shape (.item index :: place) d

variable {shape : Shape} {declared inner above : List (Declared Shape)} {d : Declared Shape}
  {place : List Value.Step}

/-- A declared field stands at its tags. -/
theorem DeclaredIn.fieldAt (h : DeclaredIn declared above d)
    (hshape : shape.recordFields? = some declared) :
    FieldAt shape ((tagsTo above d).map .key) d := by
  induction h generalizing shape with
  | here hd => exact .here hshape hd
  | inside he hinner _ ih => exact .inside hshape he (ih hinner)

/-- A field at a place of keys is declared in a record, and inside others. -/
theorem FieldAt.declaredIn (h : FieldAt shape place d) {keys : List String}
    (hplace : place = keys.map .key) : ∃ declared above, shape.recordFields? = some declared ∧
      DeclaredIn declared above d ∧ tagsTo above d = keys := by
  induction h generalizing keys with
  | here hinner hd =>
    cases keys with
    | nil => cases hplace
    | cons key rest =>
      obtain ⟨hkey, hrest⟩ := List.cons.inj hplace
      cases hkey
      cases List.map_eq_nil_iff.mp hrest.symm
      exact ⟨_, [], hinner, .here hd, rfl⟩
  | @inside _ _ e _ _ hinner he _ ih =>
    cases keys with
    | nil => cases hplace
    | cons key rest =>
      obtain ⟨hkey, hrest⟩ := List.cons.inj hplace
      cases hkey
      obtain ⟨_, above, hbelow, hd, htags⟩ := ih hrest
      exact ⟨_, e :: above, hinner, .inside he hbelow hd, by rw [tagsTo_cons, htags]⟩
  | item _ _ _ =>
    cases keys with
    | nil => cases hplace
    | cons key rest => cases (List.cons.inj hplace).1

/-- The field at the tags of a declared field of a regular shape is that field. -/
theorem FieldAt.eq_of_declaredIn {e : Declared Shape}
    (h : FieldAt shape ((tagsTo above d).map .key) e) (hd : DeclaredIn declared above d)
    (hshape : shape.recordFields? = some declared) (hr : FieldsRegular declared) : e = d := by
  obtain ⟨_, above', hdeclared, he, htags⟩ := h.declaredIn rfl
  cases hshape.symm.trans hdeclared
  exact (he.unique hd hr htags).2

end Shape

namespace Merge

open Shape

/-! ## Nulls in documents -/

/-- Null stands in the document only at fields that are declared optional. -/
def NullsAllowed (shape : Shape) (document : Value) : Prop :=
  ∀ place, document.nodeAt? place = some .null →
    ∃ d, FieldAt shape place d ∧ d.shape.isOptional = true

/-- The operation clears a record that has leaves and is not declared optional. -/
def ClearsRequired (declared : List (Declared Shape)) (op : Operation) : Prop :=
  op.value.isNull = true ∧ op.strategy ≠ .fill ∧ ∃ above d inner, DeclaredIn declared above d ∧
    pathTo above d = op.key ∧ d.shape.isOptional = false ∧
    d.shape.recordFields? = some inner ∧ HasLeaf inner

variable {name : String} {declared inner above : List (Declared Shape)} {d : Declared Shape}
  {kind : Kind} {document : Value} {op : Operation} {source : FilePath} {place : List Value.Step}

/-! ## One operation -/

/-- Where null may be assigned, a field is declared, and unless it is a required record it is
declared optional. -/
theorem exists_optional_of_key (hr : FieldsRegular declared) (hop : ¬ ClearsRequired declared op)
    (hnull : op.value.isNull = true) (hfill : op.strategy ≠ .fill)
    (hkey : (∃ f ∈ (Shape.record name declared).metadata, f.path = op.key ∧ f.isOptional = true) ∨
      isRecordPath (Shape.record name declared).metadata op.key = true) :
    ∃ above d, DeclaredIn declared above d ∧ pathTo above d = op.key ∧
      d.shape.isOptional = true := by
  rcases hkey with ⟨f, hf, hpath, hopt⟩ | hrecord
  · obtain ⟨above, d, kind, hd, -, rfl⟩ := (mem_metadata_record_iff hr).mp hf
    exact ⟨above, d, hd, hpath, hopt⟩
  · obtain ⟨above, d, inner, hd, hpath, hinner, hleaf⟩ := (isRecordPath_metadata_iff hr).mp hrecord
    refine ⟨above, d, hd, hpath, ?_⟩
    by_contra hopt
    exact hop ⟨hnull, hfill, above, d, inner, hd, hpath, Bool.eq_false_iff.mpr hopt, hinner, hleaf⟩

/-- A null after an operation stood there before or stands at a field that is declared optional,
unless the operation clears a required record. -/
theorem null_of_step (hr : FieldsRegular declared) (hop : ¬ ClearsRequired declared op)
    (h : (step document op (Shape.record name declared).metadata source).1.nodeAt? place =
      some .null) : document.nodeAt? place = some .null ∨
        ∃ d, FieldAt (.record name declared) place d ∧ d.shape.isOptional = true := by
  unfold step at h
  split at h
  · exact .inl h
  · next v heffect =>
    rcases null_of_setAt h with ⟨rest, rfl, hrest⟩ | hbefore
    · cases assigned_of_effect heffect with
      | leaf => exact absurd hrest (nodeAt?_toValue_ne_null _ rest)
      | null hnull hfill hkey =>
        cases eq_nil_of_null_in_null hrest
        obtain ⟨above, d, hd, hpath, hopt⟩ := exists_optional_of_key hr hop hnull hfill hkey
        rw [List.append_nil, ← hpath, hd.segments_pathTo hr]
        exact .inr ⟨d, hd.fieldAt rfl, hopt⟩
    · exact .inl hbefore
  · exact .inl h

/-! ## Null for declared fields -/

/-- Null for a required leaf is reported. -/
theorem step_null_of_leaf (hr : FieldsRegular declared) (hd : DeclaredIn declared above d)
    (hleaf : LeafShape d.shape kind) (hkey : op.key = pathTo above d)
    (hnull : op.value.isNull = true) (document : Value) (source : FilePath) :
    step document op (Shape.record name declared).metadata source =
      (document, some (.typeMismatch op.key kind.name source)) := by
  have hs : Separate (Shape.record name declared).metadata := separate_metadata hr
  have hmem : leafField above d kind ∈ (Shape.record name declared).metadata :=
    (mem_metadata_record_iff hr).mpr ⟨above, d, kind, hd, by rwa [hleaf.required_eq], rfl⟩
  have hat : leafAt? (Shape.record name declared).metadata op.key = some (leafField above d kind) :=
    (leafAt?_eq_some_iff hs).mpr ⟨hmem, hkey.symm⟩
  have hopt : (leafField above d kind).isOptional = false := hleaf.isOptional_eq_false
  simp only [step, effect, hat, leafEffect, hnull, hopt, if_true, Bool.false_eq_true, if_false]
  rfl

/-- Null for a record that has leaves clears it, whatever its declaration, unless it only fills. -/
theorem step_null_of_record (hr : FieldsRegular declared) (hd : DeclaredIn declared above d)
    (hinner : d.shape.recordFields? = some inner) (hleaf : HasLeaf inner)
    (hkey : op.key = pathTo above d) (hnull : op.value.isNull = true) (document : Value)
    (source : FilePath) :
    step document op (Shape.record name declared).metadata source =
      (if op.strategy = .fill then document else document.assign op.key .null, none) := by
  have hs : Separate (Shape.record name declared).metadata := separate_metadata hr
  have hrecord : isRecordPath (Shape.record name declared).metadata op.key = true :=
    (isRecordPath_metadata_iff hr).mpr ⟨above, d, inner, hd, hkey.symm, hinner, hleaf⟩
  have hat := leafAt?_of_isRecordPath hs hrecord
  simp only [step, effect, hat, hrecord, hnull, if_true, clearEffect]
  by_cases hfill : op.strategy = .fill
  · simp only [hfill, if_true]
  · simp only [hfill, if_false]

/-- A record without leaves is not known as a field. -/
theorem step_null_of_hollow (hr : FieldsRegular declared) (hd : DeclaredIn declared above d)
    (hinner : d.shape.recordFields? = some inner) (hleaf : ¬ HasLeaf inner)
    (hkey : op.key = pathTo above d) (document : Value) (source : FilePath) :
    step document op (Shape.record name declared).metadata source =
      (document, some (.unknownField op.key source)) := by
  have hs : Separate (Shape.record name declared).metadata := separate_metadata hr
  have hat : leafAt? (Shape.record name declared).metadata op.key = none := by
    rw [leafAt?_eq_none_iff hs]
    intro f hf hpath
    obtain ⟨above', d', kind, hd', hshape, rfl⟩ := (mem_metadata_record_iff hr).mp hf
    obtain ⟨-, rfl⟩ := hd'.eq_of_pathTo hd hr (hpath.trans hkey)
    rw [hshape.recordFields?_eq_none] at hinner
    cases hinner
  have hrecord : ¬ isRecordPath (Shape.record name declared).metadata op.key = true := by
    rw [isRecordPath_metadata_iff hr]
    rintro ⟨above', d', inner', hd', hpath, hinner', hleaf'⟩
    obtain ⟨-, rfl⟩ := hd'.eq_of_pathTo hd hr (hpath.trans hkey)
    cases hinner.symm.trans hinner'
    exact hleaf hleaf'
  simp only [step, effect, hat, hrecord, Bool.false_eq_true, if_false]

/-! ## Nulls where they may stand -/

theorem NullsAllowed.step (h : NullsAllowed (.record name declared) document)
    (hr : FieldsRegular declared) (hop : ¬ ClearsRequired declared op) (source : FilePath) :
    NullsAllowed (.record name declared)
      (step document op (Shape.record name declared).metadata source).1 := by
  intro place hplace
  rcases null_of_step hr hop hplace with hbefore | hopt
  · exact h place hbefore
  · exact hopt

/-- A cleared record that is not declared optional is a null that may not stand there. -/
theorem not_nullsAllowed_of_clearsRequired (hr : FieldsRegular declared)
    (hop : ClearsRequired declared op) (document : Value) (source : FilePath) :
    ¬ NullsAllowed (.record name declared)
      (Merge.step document op (Shape.record name declared).metadata source).1 := by
  obtain ⟨hnull, hfill, above, d, inner, hd, hpath, hopt, hinner, hleaf⟩ := hop
  intro h
  rw [step_null_of_record hr hd hinner hleaf hpath.symm hnull, if_neg hfill] at h
  have hat : (document.assign op.key .null).nodeAt? ((tagsTo above d).map .key) = some .null := by
    rw [nodeAt?_keys, ← hd.segments_pathTo hr, hpath]
    exact get?_assign_self document .null op.key
  obtain ⟨e, he, hoptional⟩ := h _ hat
  rw [he.eq_of_declaredIn hd rfl hr, hopt] at hoptional
  cases hoptional

theorem NullsAllowed.apply (h : NullsAllowed (.record name declared) document)
    (hr : FieldsRegular declared) {ops : List Operation}
    (hops : ∀ op ∈ ops, ¬ ClearsRequired declared op) (source : FilePath) :
    NullsAllowed (.record name declared)
      (apply document ops (Shape.record name declared).metadata source).1 := by
  induction ops generalizing document with
  | nil => exact h
  | cons op rest ih =>
    obtain ⟨hop, hrest⟩ := List.forall_mem_cons.mp hops
    rw [apply_cons]
    exact ih (h.step hr hop source) hrest

/-- Nulls stay where they may stand, except for required records. Over a regular document type, a
document that has null only at fields declared optional, and operations. Unless one of them clears a
required record with leaves, the document they make has null only at such fields again, and a single
operation keeps the document so exactly when it does not clear such a record. Null for a required
leaf, anywhere among the operations, is reported in its turn, and the document is the one that the
others make. Null for a record is never reported as a mismatch: the record is cleared if it has
leaves, unless null only fills, and is unknown otherwise. -/
theorem nulls_stay_where_optional {name : String} {declared : List (Declared Shape)}
    (hshape : (Shape.record name declared).Regular) {document : Value}
    (hdoc : NullsAllowed (.record name declared) document) (source : FilePath) :
    (∀ ops, (∀ op ∈ ops, ¬ ClearsRequired declared op) → NullsAllowed (.record name declared)
      (apply document ops (Shape.record name declared).metadata source).1) ∧
    (∀ op, NullsAllowed (.record name declared)
      (step document op (Shape.record name declared).metadata source).1 ↔
        ¬ ClearsRequired declared op) ∧
    (∀ above d kind op, DeclaredIn declared above d → LeafShape d.shape kind →
      op.key = pathTo above d → op.value.isNull = true → ∀ before after,
      apply document (before ++ op :: after) (Shape.record name declared).metadata source =
        ((apply document (before ++ after) (Shape.record name declared).metadata source).1,
          (apply document before (Shape.record name declared).metadata source).2 ++
            .typeMismatch op.key kind.name source ::
              (apply (apply document before (Shape.record name declared).metadata source).1 after
                (Shape.record name declared).metadata source).2)) ∧
    (∀ above d inner op, DeclaredIn declared above d → d.shape.recordFields? = some inner →
      op.key = pathTo above d → op.value.isNull = true → ∀ s : Value,
      (HasLeaf inner → step s op (Shape.record name declared).metadata source =
        (if op.strategy = .fill then s else s.assign op.key .null, none)) ∧
      (¬ HasLeaf inner → step s op (Shape.record name declared).metadata source =
        (s, some (.unknownField op.key source)))) := by
  rw [Regular] at hshape
  refine ⟨fun ops hops => hdoc.apply hshape hops source, fun op => ⟨fun h hop => ?_, fun hop =>
    hdoc.step hshape hop source⟩, ?_, ?_⟩
  · exact not_nullsAllowed_of_clearsRequired hshape hop document source h
  · intro above d kind op hd hleaf hkey hnull before after
    rw [apply_append, apply_append, apply_cons, step_null_of_leaf hshape hd hleaf hkey hnull]
    rfl
  · intro above d inner op hd hinner hkey hnull s
    exact ⟨fun hleaf => step_null_of_record hshape hd hinner hleaf hkey hnull s source,
      fun hleaf => step_null_of_hollow hshape hd hinner hleaf hkey s source⟩

/-- The title of a job, a text. -/
def jobTitle : Declared Shape := ⟨"title", "title", .text⟩

/-- The note of a job, which may be absent. -/
def jobNote : Declared Shape := ⟨"note", "note", .optional .text⟩

/-- The limits of a job, a record that may not be absent. -/
def jobLimits : Declared Shape :=
  ⟨"limits", "limits", .record "Limits" [⟨"depth", "depth", .number⟩]⟩

/-- The fields of a job. -/
def jobFields : List (Declared Shape) := [jobTitle, jobNote, jobLimits]

/-- A job without a note. -/
def jobDocument : Value :=
  .object [("limits", .object [("depth", .int 2)]), ("note", .null), ("title", .string "a")]

theorem regular_job : (Shape.record "Job" jobFields).Regular := by
  simp [jobFields, jobTitle, jobNote, jobLimits, Regular, FieldsRegular, isOptional]

theorem nullsAllowed_job : NullsAllowed (.record "Job" jobFields) jobDocument := by
  intro place hplace
  obtain ⟨key, inner, rest, rfl, hmem, hrest⟩ := null_of_object hplace
  simp only [List.mem_cons, List.not_mem_nil, or_false, Prod.mk.injEq] at hmem
  rcases hmem with ⟨rfl, rfl⟩ | ⟨rfl, rfl⟩ | ⟨rfl, rfl⟩
  · obtain ⟨key, inner, rest, rfl, hmem, hrest⟩ := null_of_object hrest
    cases List.mem_singleton.mp hmem
    exact absurd hrest (nodeAt?_toValue_ne_null (.number 2) rest)
  · cases eq_nil_of_null_in_null hrest
    have hnote : FieldAt (.record "Job" jobFields) [.key jobNote.tag] jobNote :=
      .here rfl (List.mem_cons_of_mem _ List.mem_cons_self)
    exact ⟨jobNote, hnote, rfl⟩
  · exact absurd hrest (nodeAt?_toValue_ne_null (.text "a") rest)

/-- A job to which null comes for the title and the note, and as a fill for the limits: only the
title is reported. -/
theorem nulls_stay_where_optional_job :
    (Shape.record "Job" jobFields).Regular ∧
      NullsAllowed (.record "Job" jobFields) jobDocument ∧
      NullsAllowed (.record "Job" jobFields) (step jobDocument ⟨.fill, "limits", .null⟩
        (Shape.record "Job" jobFields).metadata ⟨"job.yml"⟩).1 ∧
      apply jobDocument
          [⟨.set, "note", .null⟩, ⟨.set, "title", .null⟩, ⟨.set, "title", .string "b"⟩]
          (Shape.record "Job" jobFields).metadata ⟨"job.yml"⟩ =
        ((apply jobDocument [⟨.set, "note", .null⟩, ⟨.set, "title", .string "b"⟩]
            (Shape.record "Job" jobFields).metadata ⟨"job.yml"⟩).1,
          [.typeMismatch "title" "string" ⟨"job.yml"⟩]) := by
  obtain ⟨-, hstep, hleaf, -⟩ :=
    nulls_stay_where_optional regular_job nullsAllowed_job ⟨"job.yml"⟩
  refine ⟨regular_job, nullsAllowed_job, (hstep _).mpr fun hop => hop.2.1 rfl, ?_⟩
  exact hleaf [] jobTitle .text ⟨.set, "title", .null⟩ (.here List.mem_cons_self) .text
    (pathTo_nil jobTitle).symm rfl [⟨.set, "note", .null⟩] [⟨.set, "title", .string "b"⟩]

/-- The limits of a job are not declared optional, and null clears them without a report. -/
theorem required_record_cleared :
    (Shape.record "Job" jobFields).Regular ∧
      NullsAllowed (.record "Job" jobFields) jobDocument ∧
      apply jobDocument [⟨.set, "limits", .null⟩] (Shape.record "Job" jobFields).metadata
          ⟨"job.yml"⟩ =
        (.object [("limits", .null), ("note", .null), ("title", .string "a")], []) ∧
      ¬ NullsAllowed (.record "Job" jobFields)
        (.object [("limits", .null), ("note", .null), ("title", .string "a")]) := by
  refine ⟨regular_job, nullsAllowed_job, by decide +kernel, fun h => ?_⟩
  obtain ⟨d, hd, hopt⟩ := h [.key "limits"] rfl
  have hlimits : DeclaredIn jobFields [] jobLimits :=
    .here (List.mem_cons_of_mem _ (List.mem_cons_of_mem _ List.mem_cons_self))
  cases hd.eq_of_declaredIn hlimits rfl regular_job
  cases hopt

end Merge

end LayeredConfig
