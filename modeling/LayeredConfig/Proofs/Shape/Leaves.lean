import LayeredConfig.Field.Discovery
import LayeredConfig.Proofs.Merge.Change
import LayeredConfig.Proofs.Sorting
import Mathlib.Data.List.Nodup

/-
  The leaves of a document type. `LeafOf` says which fields the declared fields of a record have as
  leaves, level by level, and `mem_leavesOfFields_iff` that the walk lists these. No leaf is a
  record and none has a value (`value_of_mem_metadata`). In a regular shape, where tags hold no
  dots, the fields of one record have different tags and no value is optional twice, no leaf lies at
  or below the place of another (`separate_metadata`).
-/

namespace LayeredConfig

open Value

namespace Shape

/-! ## Records -/

/-- The shapes with fields are the records, at most one `optional` around them. -/
theorem recordFields?_eq_some_iff {shape : Shape} {inner : List (Declared Shape)} :
    shape.recordFields? = some inner ↔
      ∃ name, shape = .record name inner ∨ shape = .optional (.record name inner) := by
  constructor
  · intro h
    cases shape with
    | record name fields =>
      cases h
      exact ⟨name, .inl rfl⟩
    | optional shape =>
      cases shape with
      | record name fields =>
        cases h
        exact ⟨name, .inr rfl⟩
      | _ => cases h
    | _ => cases h
  · rintro ⟨name, rfl | rfl⟩ <;> rfl

theorem isRecord_required {shape : Shape} (h : shape.recordFields? = none) :
    shape.required.isRecord = false := by
  unfold recordFields? at h
  cases hs : shape.required with
  | record name fields => rw [hs] at h; cases h
  | _ => rfl

/-- The leaves of a declared field that is a record are those of the fields of the record. -/
theorem leavesOfField_of_record {d : Declared Shape} {inner : List (Declared Shape)}
    (h : d.shape.recordFields? = some inner) (parent : Option String)
    (inherited : Option Category) :
    leavesOfField d.name d.tag parent inherited d.shape =
      leavesOfFields (some (Field.pathBelow parent d.tag))
        (some (inherited.getD (.ofFieldName d.name))) inner := by
  obtain ⟨name, hshape | hshape⟩ := recordFields?_eq_some_iff.mp h <;> rw [hshape, leavesOfField]

theorem leavesOfField_of_not_record {d : Declared Shape} (h : d.shape.recordFields? = none)
    (parent : Option String) (inherited : Option Category) :
    leavesOfField d.name d.tag parent inherited d.shape =
      (Field.ofDeclared? d parent inherited).toList := by
  obtain ⟨name, tag, shape⟩ := d
  cases shape with
  | record _ fields => cases h
  | optional shape =>
    cases shape with
    | record _ fields => cases h
    | _ => rfl
  | _ => rfl

theorem mem_leavesOfFields {f : Field} {parent : Option String} {inherited : Option Category}
    {declared : List (Declared Shape)} :
    f ∈ leavesOfFields parent inherited declared ↔
      ∃ d ∈ declared, f ∈ leavesOfField d.name d.tag parent inherited d.shape := by
  induction declared with
  | nil => simp [leavesOfFields]
  | cons d rest ih =>
    rw [leavesOfFields, List.mem_append, ih]
    simp only [List.mem_cons, exists_eq_or_imp]

/-! ## Leaves level by level -/

/-- The field is a leaf of declared fields: one of them that is no record, or a leaf of one that
is. Below a record the path goes on and the category stays that of the field at the top. -/
inductive LeafOf : Option String → Option Category → List (Declared Shape) → Field → Prop
  | leaf {parent : Option String} {inherited : Option Category} {declared : List (Declared Shape)}
    {d : Declared Shape} {f : Field} (hd : d ∈ declared) (hrecord : d.shape.recordFields? = none)
    (hf : Field.ofDeclared? d parent inherited = some f) : LeafOf parent inherited declared f
  | inner {parent : Option String} {inherited : Option Category} {declared : List (Declared Shape)}
    {d : Declared Shape} {inner : List (Declared Shape)} {f : Field} (hd : d ∈ declared)
    (hinner : d.shape.recordFields? = some inner)
    (hf : LeafOf (some (Field.pathBelow parent d.tag))
      (some (inherited.getD (.ofFieldName d.name))) inner f) : LeafOf parent inherited declared f

/-- The fields of a record are smaller than the declared fields around it. -/
theorem sizeOf_lt_of_recordFields? {declared inner : List (Declared Shape)} {d : Declared Shape}
    (hd : d ∈ declared) (hinner : d.shape.recordFields? = some inner) :
    sizeOf inner < sizeOf declared := by
  obtain ⟨name, tag, shape⟩ := d
  have hmem := List.sizeOf_lt_of_mem hd
  have hshape : sizeOf inner < sizeOf shape := by
    obtain ⟨_, rfl | rfl⟩ := recordFields?_eq_some_iff.mp hinner
    · rw [record.sizeOf_spec]
      omega
    · rw [optional.sizeOf_spec, record.sizeOf_spec]
      omega
  rw [Declared.mk.sizeOf_spec] at hmem
  omega

theorem leafOf_of_mem_leavesOfFields {f : Field} {declared : List (Declared Shape)}
    {parent : Option String} {inherited : Option Category}
    (h : f ∈ leavesOfFields parent inherited declared) : LeafOf parent inherited declared f := by
  obtain ⟨d, hd, h⟩ := mem_leavesOfFields.mp h
  cases hinner : d.shape.recordFields? with
  | none =>
    rw [leavesOfField_of_not_record hinner] at h
    exact .leaf hd hinner (Option.mem_toList.mp h)
  | some inner =>
    rw [leavesOfField_of_record hinner] at h
    exact .inner hd hinner (leafOf_of_mem_leavesOfFields h)
termination_by sizeOf declared
decreasing_by exact sizeOf_lt_of_recordFields? hd hinner

/-- The walk over declared fields lists their leaves. -/
theorem mem_leavesOfFields_iff {f : Field} {declared : List (Declared Shape)}
    {parent : Option String} {inherited : Option Category} :
    f ∈ leavesOfFields parent inherited declared ↔ LeafOf parent inherited declared f := by
  refine ⟨leafOf_of_mem_leavesOfFields, fun h => ?_⟩
  induction h with
  | leaf hd hrecord hf =>
    refine mem_leavesOfFields.mpr ⟨_, hd, ?_⟩
    rw [leavesOfField_of_not_record hrecord]
    exact Option.mem_toList.mpr hf
  | inner hd hinner _ ih =>
    refine mem_leavesOfFields.mpr ⟨_, hd, ?_⟩
    rw [leavesOfField_of_record hinner]
    exact ih

/-- The leaves of a document type are those of its record. -/
theorem mem_metadata_iff {f : Field} {shape : Shape} :
    f ∈ shape.metadata ↔
      ∃ name fields, shape = .record name fields ∧ LeafOf none none fields f := by
  cases shape with
  | record name fields => simp [metadata, mem_leavesOfFields_iff]
  | _ => simp [metadata]

/-! ## Regular shapes -/

mutual

/-- Tags hold no dots, the fields of one record have different tags, and no value is optional
twice, at every depth that the walk over fields reaches. -/
def Regular : Shape → Prop
  | .text | .flag | .number | .list _ => True
  | .optional inner => inner.isOptional = false ∧ inner.Regular
  | .record _ fields => FieldsRegular fields

/-- The declared fields of a record are regular. -/
def FieldsRegular : List (Declared Shape) → Prop
  | [] => True
  | ⟨_, tag, shape⟩ :: rest =>
    '.' ∉ tag.toList ∧ tag ∉ rest.map Declared.tag ∧ shape.Regular ∧ FieldsRegular rest

end

theorem fieldsRegular_iff {declared : List (Declared Shape)} :
    FieldsRegular declared ↔ (declared.map Declared.tag).Nodup ∧
      ∀ d ∈ declared, '.' ∉ d.tag.toList ∧ d.shape.Regular := by
  induction declared with
  | nil => simp [FieldsRegular]
  | cons d rest ih =>
    rw [FieldsRegular, ih, List.map_cons, List.nodup_cons, List.forall_mem_cons]
    constructor
    · rintro ⟨hdot, hnew, hshape, hnodup, hrest⟩
      exact ⟨⟨hnew, hnodup⟩, ⟨hdot, hshape⟩, hrest⟩
    · rintro ⟨⟨hnew, hnodup⟩, ⟨hdot, hshape⟩, hrest⟩
      exact ⟨hdot, hnew, hshape, hnodup, hrest⟩

theorem FieldsRegular.nodup {declared : List (Declared Shape)} (h : FieldsRegular declared) :
    (declared.map Declared.tag).Nodup := (fieldsRegular_iff.mp h).1

theorem FieldsRegular.of_mem {declared : List (Declared Shape)} (h : FieldsRegular declared)
    {d : Declared Shape} (hd : d ∈ declared) : '.' ∉ d.tag.toList ∧ d.shape.Regular :=
  (fieldsRegular_iff.mp h).2 d hd

theorem Regular.recordFields? {shape : Shape} (h : shape.Regular)
    {inner : List (Declared Shape)} (hinner : shape.recordFields? = some inner) :
    FieldsRegular inner := by
  obtain ⟨name, rfl | rfl⟩ := recordFields?_eq_some_iff.mp hinner
  · rwa [Regular] at h
  · rw [Regular, Regular] at h
    exact h.2

/-- Below one `optional` a regular shape has no other one. -/
theorem Regular.isOptional_required {shape : Shape} (h : shape.Regular) :
    shape.required.isOptional = false := by
  cases shape with
  | optional inner =>
    rw [Regular] at h
    exact h.1
  | _ => rfl

/-- A regular shape that is no record has no field of the kind of records. -/
theorem Regular.kind?_ne_record {shape : Shape} (h : shape.Regular)
    (hrecord : shape.recordFields? = none) : shape.required.kind? ≠ some .record := by
  have hnot := isRecord_required hrecord
  -- the kind looks through one more `optional`, and could find a record there
  have hopt := h.isOptional_required
  generalize shape.required = s at hnot hopt
  cases s with
  | record name fields => cases hnot
  | optional inner => cases hopt
  | list element => cases element <;> simp [kind?, required]
  | _ => simp [kind?, required]

/-! ## What leaves are -/

section

variable {parent : Option String} {inherited : Option Category} {declared : List (Declared Shape)}
  {d : Declared Shape} {f g : Field}

theorem path_of_ofDeclared? (h : Field.ofDeclared? d parent inherited = some f) :
    f.path = Field.pathBelow parent d.tag := by
  obtain ⟨kind, -, rfl⟩ := Option.map_eq_some_iff.mp h
  rfl

/-- No leaf has a value before a document is read. -/
theorem LeafOf.value_eq (h : LeafOf parent inherited declared f) : f.value = none := by
  induction h with
  | leaf _ _ hf =>
    obtain ⟨kind, -, rfl⟩ := Option.map_eq_some_iff.mp hf
    rfl
  | inner _ _ _ ih => exact ih

theorem LeafOf.isRecord_eq (h : LeafOf parent inherited declared f) : f.isRecord = false := by
  induction h with
  | leaf _ hrecord hf =>
    obtain ⟨kind, -, rfl⟩ := Option.map_eq_some_iff.mp hf
    exact isRecord_required hrecord
  | inner _ _ _ ih => exact ih

theorem LeafOf.kind_ne (h : LeafOf parent inherited declared f) (hr : FieldsRegular declared) :
    f.kind ≠ .record := by
  induction h with
  | leaf hd hrecord hf =>
    obtain ⟨kind, hkind, rfl⟩ := Option.map_eq_some_iff.mp hf
    rintro rfl
    exact (hr.of_mem hd).2.kind?_ne_record hrecord hkind
  | inner hd hinner _ ih => exact ih ((hr.of_mem hd).2.recordFields? hinner)

/-! ## Places of leaves -/

/-- The keys above declared fields. -/
def parentKeys (parent : Option String) : List String := (parent.map segments).getD []

theorem segments_pathBelow (h : '.' ∉ d.tag.toList) :
    segments (Field.pathBelow parent d.tag) = parentKeys parent ++ [d.tag] := by
  cases parent with
  | none => exact segments_of_not_mem h
  | some p =>
    show segments (p ++ "." ++ d.tag) = segments p ++ [d.tag]
    rw [segments_append, segments_of_not_mem h]

/-- A declaration that makes a field makes it at its tag. -/
theorem tag_below_of_ofDeclared? (hf : Field.ofDeclared? d parent inherited = some f)
    (h : '.' ∉ d.tag.toList) : parentKeys parent ++ [d.tag] <+: segments f.path := by
  have heq : segments f.path = parentKeys parent ++ [d.tag] := by
    rw [path_of_ofDeclared? hf, segments_pathBelow h]
  exact heq ▸ List.prefix_rfl

/-- All leaves of declared fields lie below the keys above the fields. -/
theorem LeafOf.below_parentKeys (h : LeafOf parent inherited declared f)
    (hr : FieldsRegular declared) : parentKeys parent <+: segments f.path := by
  induction h with
  | leaf hd _ hf =>
    exact (List.prefix_append _ _).trans (tag_below_of_ofDeclared? hf (hr.of_mem hd).1)
  | @inner parent _ _ d _ _ hd hinner _ ih =>
    have hbelow := ih ((hr.of_mem hd).2.recordFields? hinner)
    have hkeys : parentKeys (some (Field.pathBelow parent d.tag)) = parentKeys parent ++ [d.tag] :=
      segments_pathBelow (hr.of_mem hd).1
    rw [hkeys] at hbelow
    exact (List.prefix_append _ _).trans hbelow

/-- A leaf comes from one of the declared fields and lies at or below its tag. -/
theorem LeafOf.exists_declared (h : LeafOf parent inherited declared f)
    (hr : FieldsRegular declared) :
    ∃ d ∈ declared, parentKeys parent ++ [d.tag] <+: segments f.path ∧
      ((d.shape.recordFields? = none ∧ Field.ofDeclared? d parent inherited = some f) ∨
        ∃ inner, d.shape.recordFields? = some inner ∧
          LeafOf (some (Field.pathBelow parent d.tag))
            (some (inherited.getD (.ofFieldName d.name))) inner f) := by
  cases h with
  | @leaf _ _ _ d _ hd hrecord hf =>
    exact ⟨d, hd, tag_below_of_ofDeclared? hf (hr.of_mem hd).1, .inl ⟨hrecord, hf⟩⟩
  | @inner _ _ _ d inner _ hd hinner hf =>
    refine ⟨d, hd, ?_, .inr ⟨inner, hinner, hf⟩⟩
    rw [← segments_pathBelow (hr.of_mem hd).1]
    exact hf.below_parentKeys ((hr.of_mem hd).2.recordFields? hinner)

/-- Paths that part at one key stand apart. -/
theorem apart_of_parting {keys p q : List String} {a b : String} (h : a ≠ b)
    (hp : keys ++ [a] <+: p) (hq : keys ++ [b] <+: q) : Apart p q := by
  obtain ⟨p', rfl⟩ := hp
  obtain ⟨q', rfl⟩ := hq
  induction keys with
  | nil => exact apart_of_head_ne h p' q'
  | cons key rest ih => exact apart_cons_iff.mpr ih

/-- Different leaves stand apart. -/
theorem LeafOf.eq_or_apart (hf : LeafOf parent inherited declared f)
    (hg : LeafOf parent inherited declared g) (hr : FieldsRegular declared) :
    f = g ∨ Apart (segments f.path) (segments g.path) := by
  induction hf with
  | @leaf _ _ _ d f hd hrecord hf =>
    have hbelow := tag_below_of_ofDeclared? hf (hr.of_mem hd).1
    obtain ⟨e, he, hprefix, hcase⟩ := hg.exists_declared hr
    by_cases htag : d.tag = e.tag
    · obtain rfl := List.inj_on_of_nodup_map hr.nodup hd he htag
      rcases hcase with ⟨-, hg⟩ | ⟨inner, hinner, -⟩
      · exact .inl (Option.some.inj (hf.symm.trans hg))
      · rw [hrecord] at hinner
        cases hinner
    · exact .inr (apart_of_parting htag hbelow hprefix)
  | @inner parent _ _ d inner f hd hinner hf ih =>
    have hregular := (hr.of_mem hd).2.recordFields? hinner
    have hbelow : parentKeys parent ++ [d.tag] <+: segments f.path := by
      rw [← segments_pathBelow (hr.of_mem hd).1]
      exact hf.below_parentKeys hregular
    obtain ⟨e, he, hprefix, hcase⟩ := hg.exists_declared hr
    by_cases htag : d.tag = e.tag
    · obtain rfl := List.inj_on_of_nodup_map hr.nodup hd he htag
      rcases hcase with ⟨hrecord, -⟩ | ⟨inner', hinner', hg⟩
      · rw [hrecord] at hinner
        cases hinner
      · rw [hinner] at hinner'
        cases hinner'
        exact ih hg hregular
    · exact .inr (apart_of_parting htag hbelow hprefix)

end

/-! ## Leaves of document types -/

theorem value_of_mem_metadata {shape : Shape} {f : Field} (h : f ∈ shape.metadata) :
    f.value = none := by
  obtain ⟨name, fields, -, hf⟩ := mem_metadata_iff.mp h
  exact hf.value_eq

/-- The leaves of a regular document type lie apart. -/
theorem separate_metadata {shape : Shape} (h : shape.Regular) :
    Merge.Separate shape.metadata where
  isRecord_eq f hf := by
    obtain ⟨name, fields, -, hf⟩ := mem_metadata_iff.mp hf
    exact hf.isRecord_eq
  kind_ne f hf := by
    obtain ⟨name, fields, rfl, hleaf⟩ := mem_metadata_iff.mp hf
    rw [Regular] at h
    exact hleaf.kind_ne h
  apart f hf g hg := by
    obtain ⟨name, fields, rfl, hleaf⟩ := mem_metadata_iff.mp hf
    obtain ⟨_, _, heq, hother⟩ := mem_metadata_iff.mp hg
    cases heq
    rw [Regular] at h
    exact hleaf.eq_or_apart hother h

end Shape

end LayeredConfig
