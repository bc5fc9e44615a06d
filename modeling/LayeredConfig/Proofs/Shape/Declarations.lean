import LayeredConfig.Proofs.Shape.Leaves

/-
  Declared fields at every depth. A field is declared inside the records around it (`DeclaredIn`),
  and its path is the tags on the way to it, joined by dots. In a regular shape the path tells the
  field (`DeclaredIn.unique`), and a path that goes on below a field leads into its record
  (`declaredIn_append_iff`). The leaves of declared fields are those that are no records and have a
  kind, each described by the fields on the way to it (`leafOf_iff_fieldAt`); in a regular shape
  they are those with the shape of a leaf (`leafOf_iff`). A path has leaves below it exactly when it
  is that of a record with leaves (`isRecordPath_metadata_iff`).
-/

namespace LayeredConfig

open Value

namespace Shape

/-! ## Declarations at every depth -/

/-- A field is declared inside other declared fields. The fields `above` it are the records around
it, the outermost first. -/
inductive DeclaredIn : List (Declared Shape) → List (Declared Shape) → Declared Shape → Prop
  | here {declared : List (Declared Shape)} {d : Declared Shape} (hd : d ∈ declared) :
    DeclaredIn declared [] d
  | inside {declared inner above : List (Declared Shape)} {e d : Declared Shape}
    (he : e ∈ declared) (hinner : e.shape.recordFields? = some inner)
    (h : DeclaredIn inner above d) : DeclaredIn declared (e :: above) d

/-- The tags from the root to a declared field. -/
def tagsTo (above : List (Declared Shape)) (d : Declared Shape) : List String :=
  (above ++ [d]).map Declared.tag

/-- The tags from the root to a declared field, joined by dots. -/
def pathTo (above : List (Declared Shape)) (d : Declared Shape) : String :=
  Text.join "." (tagsTo above d)

variable {declared above above' more : List (Declared Shape)} {d d' e : Declared Shape}

theorem tagsTo_ne_nil (above : List (Declared Shape)) (d : Declared Shape) :
    tagsTo above d ≠ [] := by
  simp [tagsTo]

@[simp] theorem tagsTo_cons (e : Declared Shape) (above : List (Declared Shape))
    (d : Declared Shape) :
    tagsTo (e :: above) d = e.tag :: tagsTo above d := rfl

@[simp] theorem pathTo_nil (d : Declared Shape) : pathTo [] d = d.tag := by
  simp [pathTo, tagsTo, Text.join, Text.joinChars]

@[simp] theorem pathTo_cons (e : Declared Shape) (above : List (Declared Shape))
    (d : Declared Shape) :
    pathTo (e :: above) d = e.tag ++ "." ++ pathTo above d := by
  have happend := Text.join_append "." (List.cons_ne_nil e.tag []) (tagsTo_ne_nil above d)
  rw [← pathTo_nil e]
  exact happend

theorem DeclaredIn.of_subset {other : List (Declared Shape)} (h : DeclaredIn declared above d)
    (hsub : declared ⊆ other) : DeclaredIn other above d := by
  cases h with
  | here hd => exact .here (hsub hd)
  | inside he hinner h => exact .inside (hsub he) hinner h

/-- No tag on the way to a field of a regular shape holds a dot. -/
theorem DeclaredIn.dot_notMem (h : DeclaredIn declared above d) (hr : FieldsRegular declared) :
    ∀ tag ∈ tagsTo above d, '.' ∉ tag.toList := by
  induction h with
  | here hd =>
    intro tag htag
    rw [List.mem_singleton.mp htag]
    exact (hr.of_mem hd).1
  | inside he hinner _ ih =>
    rw [tagsTo_cons, List.forall_mem_cons]
    exact ⟨(hr.of_mem he).1, ih ((hr.of_mem he).2.recordFields? hinner)⟩

/-- The keys of a path are the tags it was made of. -/
theorem DeclaredIn.segments_pathTo (h : DeclaredIn declared above d)
    (hr : FieldsRegular declared) : segments (pathTo above d) = tagsTo above d :=
  Text.split_join rfl (tagsTo_ne_nil above d) (h.dot_notMem hr)

/-- The tags tell a declared field. -/
theorem DeclaredIn.unique (h : DeclaredIn declared above d) (h' : DeclaredIn declared above' d')
    (hr : FieldsRegular declared) (htags : tagsTo above d = tagsTo above' d') :
    above = above' ∧ d = d' := by
  induction h generalizing above' with
  | here hd =>
    cases h' with
    | here hd' =>
      have htag := (List.cons.inj htags).1
      exact ⟨rfl, List.inj_on_of_nodup_map hr.nodup hd hd' htag⟩
    | inside => exact absurd (List.cons.inj htags).2.symm (tagsTo_ne_nil _ _)
  | inside he hinner _ ih =>
    cases h' with
    | here => exact absurd (List.cons.inj htags).2 (tagsTo_ne_nil _ _)
    | inside he' hinner' hrest' =>
      obtain ⟨htag, hrest⟩ := List.cons.inj htags
      obtain rfl := List.inj_on_of_nodup_map hr.nodup he he' htag
      cases hinner.symm.trans hinner'
      obtain ⟨rfl, rfl⟩ := ih hrest' ((hr.of_mem he).2.recordFields? hinner) hrest
      exact ⟨rfl, rfl⟩

/-- The path tells a declared field. -/
theorem DeclaredIn.eq_of_pathTo (h : DeclaredIn declared above d)
    (h' : DeclaredIn declared above' d') (hr : FieldsRegular declared)
    (hpath : pathTo above d = pathTo above' d') : above = above' ∧ d = d' := by
  refine h.unique h' hr ?_
  rw [← h.segments_pathTo hr, hpath, h'.segments_pathTo hr]

/-! ## Records on the way -/

theorem tagsTo_append (above : List (Declared Shape)) (e : Declared Shape)
    (more : List (Declared Shape)) (d : Declared Shape) :
    tagsTo (above ++ e :: more) d = tagsTo above e ++ tagsTo more d := by
  simp [tagsTo]

theorem pathTo_append (above : List (Declared Shape)) (e : Declared Shape)
    (more : List (Declared Shape)) (d : Declared Shape) :
    pathTo (above ++ e :: more) d = pathTo above e ++ "." ++ pathTo more d := by
  rw [pathTo, tagsTo_append]
  exact Text.join_append "." (tagsTo_ne_nil above e) (tagsTo_ne_nil more d)

/-- Where the tags on the way to a field are cut in two, they are cut behind a field above it. -/
theorem exists_above_of_tagsTo {p q : List String} (h : tagsTo above d = p ++ q) (hp : p ≠ [])
    (hq : q ≠ []) :
    ∃ outer e more, above = outer ++ e :: more ∧ tagsTo outer e = p ∧ tagsTo more d = q := by
  obtain ⟨l, r, hcut, rfl, rfl⟩ := List.map_eq_append_iff.mp h
  rw [ne_eq, List.map_eq_nil_iff] at hp hq
  obtain ⟨outer, e, rfl⟩ := (List.eq_nil_or_concat' l).resolve_left hp
  obtain ⟨more, last, rfl⟩ := (List.eq_nil_or_concat' r).resolve_left hq
  rw [← List.append_assoc] at hcut
  obtain ⟨habove, hlast⟩ := List.append_inj' hcut rfl
  cases hlast
  exact ⟨outer, e, more, by rw [habove, List.append_assoc]; rfl, rfl, rfl⟩

/-- Below a field that is a record lie the fields of the record, and no others. -/
theorem declaredIn_append_iff : DeclaredIn declared (above ++ e :: more) d ↔
    DeclaredIn declared above e ∧
      ∃ inner, e.shape.recordFields? = some inner ∧ DeclaredIn inner more d := by
  constructor
  · intro h
    induction above generalizing declared with
    | nil =>
      cases h with
      | inside he hinner hrest => exact ⟨.here he, _, hinner, hrest⟩
    | cons a above ih =>
      cases h with
      | inside ha hinner hrest =>
        obtain ⟨he, hbelow⟩ := ih hrest
        exact ⟨.inside ha hinner he, hbelow⟩
  · rintro ⟨he, inner, hinner, hrest⟩
    induction he with
    | here he => exact .inside he hinner hrest
    | inside ha houter _ ih => exact .inside ha houter (ih hinner)

/-! ## Descriptions -/

/-- What is known of a declared field of any shape: its own name and tag, the path from the root,
and the category that the name of the field at the top decides. -/
def fieldAt (above : List (Declared Shape)) (d : Declared Shape) (kind : Kind) : Field where
  name := d.name
  tag := d.tag
  kind := kind
  category := .ofFieldName (above.head?.getD d).name
  path := pathTo above d
  isOptional := d.shape.isOptional
  isList := d.shape.required.isList
  isRecord := d.shape.required.isRecord
  value := none

/-- A field of a record as it is known from outside the record. -/
def fieldUnder (parent : Option String) (inherited : Option Category) (f : Field) : Field :=
  { f with path := Field.pathBelow parent f.path, category := inherited.getD f.category }

variable {parent : Option String} {inherited : Option Category} {kind : Kind} {f : Field}

theorem fieldUnder_fieldAt_cons (parent : Option String) (inherited : Option Category)
    (e : Declared Shape) (above : List (Declared Shape)) (d : Declared Shape) (kind : Kind) :
    fieldUnder (some (Field.pathBelow parent e.tag))
        (some (inherited.getD (.ofFieldName e.name))) (fieldAt above d kind) =
      fieldUnder parent inherited (fieldAt (e :: above) d kind) := by
  have hpath : Field.pathBelow (some (Field.pathBelow parent e.tag)) (pathTo above d) =
      Field.pathBelow parent (pathTo (e :: above) d) := by
    rw [pathTo_cons]
    cases parent with
    | none => rfl
    | some p => simp only [Field.pathBelow, String.append_assoc]
  unfold fieldUnder fieldAt
  dsimp only
  rw [hpath]
  rfl

/-- A declaration makes the field that is known of it, if its shape has a kind. -/
theorem ofDeclared?_eq (d : Declared Shape) (parent : Option String)
    (inherited : Option Category) :
    Field.ofDeclared? d parent inherited =
      d.shape.required.kind?.map fun kind => fieldUnder parent inherited (fieldAt [] d kind) := by
  unfold Field.ofDeclared? fieldUnder fieldAt
  dsimp only
  rw [pathTo_nil]
  rfl

/-- The leaves of declared fields are those that are no records and have a kind, at every depth. -/
theorem leafOf_iff_fieldAt : LeafOf parent inherited declared f ↔
    ∃ above d kind, DeclaredIn declared above d ∧ d.shape.recordFields? = none ∧
      d.shape.required.kind? = some kind ∧
        f = fieldUnder parent inherited (fieldAt above d kind) := by
  constructor
  · intro h
    induction h with
    | @leaf parent inherited declared d f hd hrecord hf =>
      rw [ofDeclared?_eq, Option.map_eq_some_iff] at hf
      obtain ⟨kind, hkind, rfl⟩ := hf
      exact ⟨[], d, kind, .here hd, hrecord, hkind, rfl⟩
    | @inner parent inherited declared e inner f he hinner _ ih =>
      obtain ⟨above, d, kind, hd, hrecord, hkind, rfl⟩ := ih
      refine ⟨e :: above, d, kind, .inside he hinner hd, hrecord, hkind, ?_⟩
      exact fieldUnder_fieldAt_cons parent inherited e above d kind
  · rintro ⟨above, d, kind, hd, hrecord, hkind, rfl⟩
    induction hd generalizing parent inherited with
    | here hd => exact .leaf hd hrecord (by rw [ofDeclared?_eq, hkind, Option.map_some])
    | inside he hinner _ ih =>
      refine .inner he hinner ?_
      rw [← fieldUnder_fieldAt_cons]
      exact ih hrecord hkind

/-! ## Leaves -/

/-- The shapes of leaves and their kinds: texts, flags, numbers and lists of texts. -/
inductive LeafShape : Shape → Kind → Prop
  | text : LeafShape .text .text
  | flag : LeafShape .flag .flag
  | number : LeafShape .number .number
  | textList : LeafShape (.list .text) .textList

theorem LeafShape.kind?_eq {shape : Shape} {kind : Kind} (h : LeafShape shape kind) :
    shape.kind? = some kind := by
  cases h <;> rfl

theorem LeafShape.recordFields?_eq_none {shape : Shape} {kind : Kind}
    (h : LeafShape shape.required kind) : shape.recordFields? = none := by
  unfold recordFields?
  generalize shape.required = s at h
  cases h <;> rfl

theorem LeafShape.required_eq {shape : Shape} {kind : Kind} (h : LeafShape shape kind) :
    shape.required = shape := by
  cases h <;> rfl

theorem LeafShape.isOptional_eq_false {shape : Shape} {kind : Kind} (h : LeafShape shape kind) :
    shape.isOptional = false := by
  cases h <;> rfl

theorem LeafShape.kind_ne {shape : Shape} {kind : Kind} (h : LeafShape shape kind) :
    kind ≠ .record := by
  cases h <;> simp

/-- In a regular shape, a field that is no record is a leaf if it has a kind. -/
theorem Regular.leafShape {shape : Shape} (hr : shape.Regular)
    (hrecord : shape.recordFields? = none) {kind : Kind}
    (hkind : shape.required.kind? = some kind) :
    LeafShape shape.required kind := by
  have hnot := hr.kind?_ne_record hrecord
  have hopt := hr.isOptional_required
  generalize shape.required = s at hkind hopt hnot
  cases s with
  | list element => cases element <;> cases hkind; exact .textList
  | optional inner => cases hopt
  | record name fields => cases hkind; exact absurd rfl hnot
  | text => cases hkind; exact .text
  | flag => cases hkind; exact .flag
  | number => cases hkind; exact .number

/-- The shape of a field declared in a regular shape is regular. -/
theorem DeclaredIn.regular (h : DeclaredIn declared above d) (hr : FieldsRegular declared) :
    d.shape.Regular := by
  induction h with
  | here hd => exact (hr.of_mem hd).2
  | inside he hinner _ ih => exact ih ((hr.of_mem he).2.recordFields? hinner)

/-- What discovery knows of a leaf of a document type: its own name and tag, the path from the
root, and the category that the name of the field at the top decides. -/
def leafField (above : List (Declared Shape)) (d : Declared Shape) (kind : Kind) : Field where
  name := d.name
  tag := d.tag
  kind := kind
  category := .ofFieldName (above.head?.getD d).name
  path := pathTo above d
  isOptional := d.shape.isOptional
  isList := kind = .textList
  isRecord := false
  value := none

theorem leafField_eq_fieldAt (h : LeafShape d.shape.required kind)
    (above : List (Declared Shape)) : leafField above d kind = fieldAt above d kind := by
  unfold leafField fieldAt
  generalize d.shape.required = s at h
  cases h <;> rfl

/-- The leaves of declared fields are those with the shape of a leaf, at every depth. -/
theorem leafOf_iff (hr : FieldsRegular declared) : LeafOf parent inherited declared f ↔
    ∃ above d kind, DeclaredIn declared above d ∧ LeafShape d.shape.required kind ∧
      f = fieldUnder parent inherited (leafField above d kind) := by
  rw [leafOf_iff_fieldAt]
  constructor
  · rintro ⟨above, d, kind, hd, hrecord, hkind, rfl⟩
    have hleaf := (hd.regular hr).leafShape hrecord hkind
    exact ⟨above, d, kind, hd, hleaf, by rw [leafField_eq_fieldAt hleaf]⟩
  · rintro ⟨above, d, kind, hd, hleaf, rfl⟩
    refine ⟨above, d, kind, hd, hleaf.recordFields?_eq_none, hleaf.kind?_eq, ?_⟩
    rw [leafField_eq_fieldAt hleaf]

/-- The leaves of a regular document type are the fields declared in it that have the shape of a
leaf. -/
theorem mem_metadata_record_iff {name : String} (hr : FieldsRegular declared) :
    f ∈ (Shape.record name declared).metadata ↔ ∃ above d kind, DeclaredIn declared above d ∧
      LeafShape d.shape.required kind ∧ f = leafField above d kind := by
  rw [mem_metadata_iff]
  constructor
  · rintro ⟨_, _, heq, hf⟩
    cases heq
    exact (leafOf_iff hr).mp hf
  · intro h
    exact ⟨name, declared, rfl, (leafOf_iff hr).mpr h⟩

/-! ## Records with leaves -/

/-- Some leaf is declared, at any depth. -/
def HasLeaf (declared : List (Declared Shape)) : Prop :=
  ∃ above d kind, DeclaredIn declared above d ∧ LeafShape d.shape.required kind

/-- In a regular document type, leaves lie below a path exactly when it is the path of a record that
has leaves. -/
theorem isRecordPath_metadata_iff {name path : String} (hr : FieldsRegular declared) :
    Merge.isRecordPath (Shape.record name declared).metadata path = true ↔
      ∃ above d inner, DeclaredIn declared above d ∧ pathTo above d = path ∧
        d.shape.recordFields? = some inner ∧ HasLeaf inner := by
  rw [Merge.isRecordPath_iff]
  constructor
  · rintro ⟨f, hf, rest, hrest⟩
    obtain ⟨above, d, kind, hd, hleaf, rfl⟩ := (mem_metadata_record_iff hr).mp hf
    have htags : tagsTo above d = segments path ++ segments rest := by
      rw [← hd.segments_pathTo hr, ← segments_append, ← hrest]
      rfl
    obtain ⟨outer, e, more, rfl, hpath, -⟩ :=
      exists_above_of_tagsTo htags (segments_ne_nil path) (segments_ne_nil rest)
    obtain ⟨he, inner, hinner, hmore⟩ := declaredIn_append_iff.mp hd
    refine ⟨outer, e, inner, he, ?_, hinner, more, d, kind, hmore, hleaf⟩
    rw [pathTo, hpath, join_segments]
  · rintro ⟨above, d, inner, hd, rfl, hinner, more, e, kind, he, hleaf⟩
    have hbelow : DeclaredIn declared (above ++ d :: more) e :=
      declaredIn_append_iff.mpr ⟨hd, inner, hinner, he⟩
    exact ⟨leafField (above ++ d :: more) e kind,
      (mem_metadata_record_iff hr).mpr ⟨_, e, kind, hbelow, hleaf, rfl⟩, pathTo more e,
      pathTo_append above d more e⟩

end Shape

end LayeredConfig
