import LayeredConfig.Proofs.Fallible
import LayeredConfig.Proofs.Shape.Declarations

/-
  Which declared fields are described, and whether the descriptions are true. Discovery lists every
  declared field that is no record and has a kind (`mem_metadata_iff_fieldAt`), and a path leads at
  every level to the first field with the tag (`describe_eq_some_iff`). A field has a kind if its
  shape is one that fields can have in at most one `optional`, but also if it is in two of them
  (`Described`). Descriptions of the former say what the declaration says; those of the latter do
  not (`truthful_fieldAt_iff`), and one of them makes a record pass for a leaf
  (`optional_twice_is_described`).
-/

namespace LayeredConfig

open Value

namespace Shape

variable {declared inner above : List (Declared Shape)} {d : Declared Shape} {shape : Shape}
  {parent : Option String} {inherited : Option Category} {kind : Kind} {f : Field}

/-! ## Shapes that are described -/

/-- The shapes that a field can have, apart from an `optional` around them, and their kinds: those
of leaves, and records. -/
inductive FieldShape : Shape → Kind → Prop
  | leaf {shape : Shape} {kind : Kind} (h : LeafShape shape kind) : FieldShape shape kind
  | record (name : String) (fields : List (Declared Shape)) :
    FieldShape (.record name fields) .record

/-- One `optional` right inside another, around a shape that a field can have. -/
def OptionalTwice (shape : Shape) : Prop :=
  ∃ inner kind, shape = .optional (.optional inner) ∧ FieldShape inner kind

/-- The shapes that are described and the kinds they are given: those that a field can have, in no
more than two `optional`s. -/
inductive Described : Shape → Kind → Prop
  | once {shape : Shape} {kind : Kind} (h : FieldShape shape.required kind) : Described shape kind
  | twice {inner : Shape} {kind : Kind} (h : FieldShape inner kind) :
    Described (.optional (.optional inner)) kind

theorem FieldShape.isOptional_eq_false (h : FieldShape shape kind) : shape.isOptional = false := by
  cases h with
  | leaf h => exact h.isOptional_eq_false
  | record => rfl

theorem kind?_eq_some_iff : shape.kind? = some kind ↔ FieldShape shape.required kind := by
  unfold kind?
  generalize shape.required = s
  constructor
  · intro h
    cases s with
    | text => cases h; exact .leaf .text
    | flag => cases h; exact .leaf .flag
    | number => cases h; exact .leaf .number
    | list element => cases element <;> cases h; exact .leaf .textList
    | optional inner => cases h
    | record name fields => cases h; exact .record name fields
  · rintro (⟨⟨⟩⟩ | ⟨⟩) <;> rfl

/-- Describing a field takes one `optional` off, and finding the kind takes off another. -/
theorem kind?_required_eq_some_iff : shape.required.kind? = some kind ↔ Described shape kind := by
  rw [kind?_eq_some_iff]
  constructor
  · intro h
    cases shape with
    | optional middle =>
      cases middle with
      | optional inner => exact .twice h
      | _ => exact .once h
    | _ => exact .once h
  · intro h
    cases h with
    | once h =>
      have hopt := h.isOptional_eq_false
      generalize shape.required = s at h hopt
      cases s with
      | optional => cases hopt
      | _ => exact h
    | twice h => exact h

theorem kind?_of_recordFields? (h : d.shape.recordFields? = some inner) :
    d.shape.required.kind? = some .record := by
  obtain ⟨name, hshape | hshape⟩ := recordFields?_eq_some_iff.mp h <;> rw [hshape] <;> rfl

/-! ## Fields that are described -/

/-- The first field at its tags: at every level no field before it has the same tag. -/
inductive FirstIn : List (Declared Shape) → List (Declared Shape) → Declared Shape → Prop
  | here {declared : List (Declared Shape)} {d : Declared Shape}
    (hd : (declared.find? fun c => c.tag == d.tag) = some d) : FirstIn declared [] d
  | inside {declared inner above : List (Declared Shape)} {e d : Declared Shape}
    (he : (declared.find? fun c => c.tag == e.tag) = some e)
    (hinner : e.shape.recordFields? = some inner) (h : FirstIn inner above d) :
    FirstIn declared (e :: above) d

theorem FirstIn.declaredIn (h : FirstIn declared above d) : DeclaredIn declared above d := by
  induction h with
  | here hd => exact .here (List.mem_of_find?_eq_some hd)
  | inside he hinner _ ih => exact .inside (List.mem_of_find?_eq_some he) hinner ih

/-- Where the fields of a record have different tags, each is the first with its tag. -/
theorem find?_tag (hr : FieldsRegular declared) (hd : d ∈ declared) :
    (declared.find? fun c => c.tag == d.tag) = some d :=
  find?_eq_some_of_unique hd (beq_self_eq_true d.tag) fun _ hc htag =>
    List.inj_on_of_nodup_map hr.nodup hc hd (beq_iff_eq.mp htag)

theorem DeclaredIn.firstIn (h : DeclaredIn declared above d) (hr : FieldsRegular declared) :
    FirstIn declared above d := by
  induction h with
  | here hd => exact .here (find?_tag hr hd)
  | inside he hinner _ ih =>
    exact .inside (find?_tag hr he) hinner (ih ((hr.of_mem he).2.recordFields? hinner))

/-- Discovery lists the declared fields that are no records and are described. -/
theorem mem_metadata_iff_fieldAt {name : String} :
    f ∈ (Shape.record name declared).metadata ↔ ∃ above d kind, DeclaredIn declared above d ∧
      d.shape.recordFields? = none ∧ Described d.shape kind ∧ f = fieldAt above d kind := by
  simp only [← kind?_required_eq_some_iff]
  rw [mem_metadata_iff]
  constructor
  · rintro ⟨_, _, heq, hf⟩
    cases heq
    exact leafOf_iff_fieldAt.mp hf
  · intro h
    exact ⟨name, declared, rfl, leafOf_iff_fieldAt.mpr h⟩

/-- Below a described record its path goes on and its category stays. -/
theorem fieldUnder_described (parent : Option String) (inherited : Option Category)
    (e : Declared Shape) (outer : Kind) (above : List (Declared Shape)) (d : Declared Shape)
    (kind : Kind) :
    fieldUnder (some (fieldUnder parent inherited (fieldAt [] e outer)).path)
        (some (fieldUnder parent inherited (fieldAt [] e outer)).category) (fieldAt above d kind) =
      fieldUnder parent inherited (fieldAt (e :: above) d kind) := by
  rw [← fieldUnder_fieldAt_cons, ← pathTo_nil e]
  rfl

/-- Tags lead to the first field at them, if it has a kind. -/
theorem describeFrom_eq_some_iff {tags : List String} :
    describeFrom declared parent inherited tags = some f ↔ ∃ above d kind,
      FirstIn declared above d ∧ tagsTo above d = tags ∧ Described d.shape kind ∧
      f = fieldUnder parent inherited (fieldAt above d kind) := by
  simp only [← kind?_required_eq_some_iff]
  induction tags generalizing declared parent inherited with
  | nil => simp [describeFrom, tagsTo_ne_nil]
  | cons tag rest ih =>
    rw [describeFrom]
    constructor
    · intro h
      obtain ⟨e, hfind, h⟩ := Option.bind_eq_some_iff.mp h
      obtain ⟨g, hg, h⟩ := Option.bind_eq_some_iff.mp h
      have htag : e.tag = tag := by simpa using List.find?_some hfind
      subst htag
      rw [ofDeclared?_eq, Option.map_eq_some_iff] at hg
      obtain ⟨outer, hkind, rfl⟩ := hg
      cases rest with
      | nil =>
        cases h
        exact ⟨[], e, outer, .here hfind, rfl, hkind, rfl⟩
      | cons next more =>
        obtain ⟨inner, hinner, h⟩ := Option.bind_eq_some_iff.mp h
        rw [ih] at h
        obtain ⟨above, d, kind, hd, htags, hkind, rfl⟩ := h
        refine ⟨e :: above, d, kind, .inside hfind hinner hd, ?_, hkind,
          fieldUnder_described parent inherited e outer above d kind⟩
        rw [tagsTo_cons, htags]
    · rintro ⟨above, d, kind, hd, htags, hkind, rfl⟩
      cases hd with
      | here hd =>
        obtain ⟨rfl, rfl⟩ := List.cons.inj htags
        rw [hd, Option.bind_eq_bind, Option.bind_some, ofDeclared?_eq, hkind]
        rfl
      | @inside _ inner above e _ he hinner hd =>
        rw [tagsTo_cons] at htags
        obtain ⟨rfl, rfl⟩ := List.cons.inj htags
        have hmore : (tagsTo above d).isEmpty = false := by
          rw [List.isEmpty_eq_false_iff]
          exact tagsTo_ne_nil above d
        have hrest := ih.mpr ⟨above, d, kind, hd, rfl, hkind,
          (fieldUnder_described parent inherited e .record above d kind).symm⟩
        rw [he, Option.bind_eq_bind, Option.bind_some, ofDeclared?_eq,
          kind?_of_recordFields? hinner, Option.map_some, Option.bind_eq_bind, Option.bind_some,
          hmore, hinner]
        exact hrest

/-- A path leads to the first field at its keys, if the field is described. -/
theorem describe_eq_some_iff {name path : String} :
    (Shape.record name declared).describe path = some f ↔ ∃ above d kind,
      FirstIn declared above d ∧ tagsTo above d = segments path ∧ Described d.shape kind ∧
      f = fieldAt above d kind :=
  describeFrom_eq_some_iff

/-! ## True descriptions -/

/-- A description says what the declaration says: the field has a shape that fields can have, in at
most one `optional`, and the marks of the description tell its kind and whether it is optional. -/
structure Truthful (d : Declared Shape) (f : Field) : Prop where
  fieldShape : FieldShape d.shape.required f.kind
  isRecord_iff : f.isRecord = true ↔ f.kind = .record
  isList_iff : f.isList = true ↔ f.kind = .textList
  isOptional_iff : f.isOptional = true ↔ ∃ inner, d.shape = .optional inner

theorem isOptional_iff : shape.isOptional = true ↔ ∃ inner, shape = .optional inner := by
  cases shape <;> simp [isOptional]

theorem OptionalTwice.not_fieldShape (h : OptionalTwice shape) :
    ¬ FieldShape shape.required kind := by
  obtain ⟨inner, _, rfl, -⟩ := h
  intro hshape
  exact Bool.noConfusion hshape.isOptional_eq_false

/-- The description of a field is true unless the field is optional twice. -/
theorem truthful_fieldAt_iff (h : Described d.shape kind) (above : List (Declared Shape)) :
    Truthful d (fieldAt above d kind) ↔ ¬ OptionalTwice d.shape := by
  constructor
  · intro htrue htwice
    exact htwice.not_fieldShape htrue.fieldShape
  · intro htwice
    have hshape : FieldShape d.shape.required kind := by
      generalize d.shape = shape at h htwice
      cases h with
      | once h => exact h
      | twice h => exact absurd ⟨_, _, rfl, h⟩ htwice
    refine ⟨hshape, ?_, ?_, isOptional_iff⟩
    · show d.shape.required.isRecord = true ↔ kind = .record
      generalize d.shape.required = s at hshape
      rcases hshape with ⟨⟨⟩⟩ | ⟨⟩ <;> simp [isRecord]
    · show d.shape.required.isList = true ↔ kind = .textList
      generalize d.shape.required = s at hshape
      rcases hshape with ⟨⟨⟩⟩ | ⟨⟩ <;> simp [isList]

/-- For every record, whatever its fields: discovery lists the declared fields, at every depth, that
are no records and are described, and nothing else; a path describes the first field at its keys, if
that one is described. The description of every described field is true, and no listed field is of
the kind of records, exactly when no declared field is optional twice. -/
theorem descriptions_truthful_iff (name : String) (fields : List (Declared Shape)) :
    (∀ f, f ∈ (Shape.record name fields).metadata ↔ ∃ above d kind, DeclaredIn fields above d ∧
      d.shape.recordFields? = none ∧ Described d.shape kind ∧ f = fieldAt above d kind) ∧
    (∀ path f, (Shape.record name fields).describe path = some f ↔ ∃ above d kind,
      FirstIn fields above d ∧ tagsTo above d = segments path ∧ Described d.shape kind ∧
      f = fieldAt above d kind) ∧
    ((∀ above d kind, DeclaredIn fields above d → Described d.shape kind →
        Truthful d (fieldAt above d kind)) ∧
      (∀ f ∈ (Shape.record name fields).metadata, f.kind ≠ .record) ↔
        ∀ above d, DeclaredIn fields above d → ¬ OptionalTwice d.shape) := by
  refine ⟨fun f => mem_metadata_iff_fieldAt, fun path f => describe_eq_some_iff, ?_⟩
  constructor
  · rintro ⟨htrue, -⟩ above d hd htwice
    obtain ⟨inner, kind, hshape, hinner⟩ := id htwice
    have hdescribed : Described d.shape kind := hshape ▸ .twice hinner
    exact (truthful_fieldAt_iff hdescribed above).mp (htrue above d kind hd hdescribed) htwice
  · intro honce
    have htrue : ∀ above d kind, DeclaredIn fields above d → Described d.shape kind →
        Truthful d (fieldAt above d kind) := fun above d kind hd hdescribed =>
      (truthful_fieldAt_iff hdescribed above).mpr (honce above d hd)
    refine ⟨htrue, fun f hf hkind => ?_⟩
    obtain ⟨above, d, kind, hd, hrecord, hdescribed, rfl⟩ := mem_metadata_iff_fieldAt.mp hf
    have hmark := (htrue above d kind hd hdescribed).isRecord_iff.mpr hkind
    exact Bool.noConfusion (hmark.symm.trans (isRecord_required hrecord))

/-- The limits of a task, a record that is optional twice. -/
def taskLimits : Declared Shape :=
  ⟨"limits", "limits", .optional (.optional (.record "Limits" [⟨"depth", "depth", .number⟩]))⟩

/-- The fields of a task. -/
def taskFields : List (Declared Shape) := [taskLimits, ⟨"title", "title", .text⟩]

/-- The limits of a task are no field that is supported, but they are listed among the leaves, are
described at their path, and are of the kind of records without being marked as a record. -/
theorem optional_twice_is_described :
    (∀ kind, ¬ FieldShape taskLimits.shape.required kind) ∧
    (∃ f ∈ (Shape.record "Task" taskFields).metadata,
      (Shape.record "Task" taskFields).describe "limits" = some f ∧ f.path = "limits" ∧
      f.kind = .record ∧ f.isRecord = false) ∧
    ¬ ∀ above d kind, DeclaredIn taskFields above d → Described d.shape kind →
      Truthful d (fieldAt above d kind) := by
  have htwice : OptionalTwice taskLimits.shape := ⟨_, _, rfl, .record _ _⟩
  have hdescribed : Described taskLimits.shape .record := .twice (.record _ _)
  have hin : DeclaredIn taskFields [] taskLimits := .here List.mem_cons_self
  refine ⟨fun kind => htwice.not_fieldShape, ⟨fieldAt [] taskLimits .record, ?_, ?_, ?_⟩, ?_⟩
  · exact mem_metadata_iff_fieldAt.mpr ⟨[], taskLimits, .record, hin, rfl, hdescribed, rfl⟩
  · refine describe_eq_some_iff.mpr ⟨[], taskLimits, .record, .here rfl, ?_, hdescribed, rfl⟩
    exact (segments_of_not_mem (by decide)).symm
  · exact ⟨pathTo_nil taskLimits, rfl, rfl⟩
  · intro htrue
    have htruthful := htrue [] taskLimits .record hin hdescribed
    exact (truthful_fieldAt_iff hdescribed []).mp htruthful htwice

end Shape

end LayeredConfig
