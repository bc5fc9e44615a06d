import LayeredConfig.Proofs.Merge.Rejection
import LayeredConfig.Proofs.Shape.Descriptions

/-
  Three ways to name a field: its entry in the list of leaves, the description at its path, and the
  key of an operation. In a regular document type they agree (`names_agree`): the descriptions that
  are no records are the entries of the list, those of records stand at the paths of the declared
  records, and an operation does to its key what the description at the key tells, as far as records
  have leaves (`roleOf_metadata`).
-/

namespace LayeredConfig

open Value

/-! ## Roles of keys -/

namespace Merge

/-- What the key of an operation names. -/
inductive Role where
  | leaf (f : Field)
  | record
  | unknown
  deriving Repr, DecidableEq

/-- What an operation does to what its key names. -/
def Role.effect (document : Value) (op : Operation) (source : FilePath) : Role → Effect
  | .leaf f => leafEffect document op f source
  | .record =>
    if op.value.isNull then clearEffect op.strategy
    else .reject (.typeMismatch op.key Kind.record.name source)
  | .unknown => .reject (.unknownField op.key source)

/-- What a key names among the leaves of a document type. -/
def roleOf (fields : List Field) (key : String) : Role :=
  match leafAt? fields key with
  | some f => .leaf f
  | none => if isRecordPath fields key then .record else .unknown

variable {fields : List Field} {document : Value} {op : Operation} {source : FilePath}
  {key : String} {f : Field}

/-- All that an operation reads of the fields is what its key names. -/
theorem effect_eq_role (document : Value) (op : Operation) (fields : List Field)
    (source : FilePath) :
    Merge.effect document op fields source = (roleOf fields op.key).effect document op source := by
  unfold Merge.effect roleOf
  cases leafAt? fields op.key with
  | some f => rfl
  | none => cases isRecordPath fields op.key <;> rfl

theorem leafEffect_ne_unknownField (document : Value) (op : Operation) (f : Field)
    (source : FilePath) (key : String) :
    (leafEffect document op f source).problem? ≠ some (.unknownField key source) := by
  unfold leafEffect
  split
  · split
    · rw [problem?_clearEffect]
      exact (Option.some_ne_none _).symm
    · simp [Effect.problem?]
  · split
    · split <;> simp [Effect.problem?]
    · simp [Effect.problem?]

/-- An operation is reported as unknown exactly when its key names nothing. -/
theorem unknownField_mem_step_iff :
    .unknownField key source ∈ (step document op fields source).2.toList ↔
      op.key = key ∧ roleOf fields key = .unknown := by
  rw [Option.mem_toList, step_snd, effect_eq_role]
  constructor
  · intro h
    cases hrole : roleOf fields op.key with
    | leaf f =>
      rw [hrole] at h
      exact absurd h (leafEffect_ne_unknownField document op f source key)
    | record =>
      rw [hrole] at h
      simp only [Role.effect] at h
      split at h
      · rw [problem?_clearEffect] at h
        cases h
      · cases h
    | unknown =>
      rw [hrole] at h
      cases h
      exact ⟨rfl, hrole⟩
  · rintro ⟨rfl, hrole⟩
    rw [hrole]
    rfl

/-- A run reports the keys that name nothing as unknown, and no others. -/
theorem unknownField_mem_apply_iff {ops : List Operation} :
    .unknownField key source ∈ (apply document ops fields source).2 ↔
      (∃ op ∈ ops, op.key = key) ∧ roleOf fields key = .unknown := by
  induction ops generalizing document with
  | nil => simp [apply]
  | cons op rest ih =>
    rw [apply_cons, List.mem_append, unknownField_mem_step_iff, ih]
    rw [← or_and_right]
    simp only [List.mem_cons, exists_eq_or_imp]

end Merge

namespace Shape

open Merge (Role roleOf)

/-- What the description at a key says that the key names. -/
def role (shape : Shape) (key : String) : Role :=
  match shape.describe key with
  | some f => if f.isRecord then .record else .leaf f
  | none => .unknown

variable {name path : String} {declared inner above : List (Declared Shape)} {d : Declared Shape}
  {f : Field}

/-! ## Descriptions -/

theorem isRecord_required_iff {shape : Shape} :
    shape.required.isRecord = true ↔ ∃ inner, shape.recordFields? = some inner := by
  unfold recordFields?
  cases shape.required <;> simp [isRecord]

/-- A description that is no record is the entry of the list of leaves. -/
theorem describe_leaf_iff (hr : FieldsRegular declared) :
    (Shape.record name declared).describe path = some f ∧ f.isRecord = false ↔
      f ∈ (Shape.record name declared).metadata ∧ f.path = path := by
  rw [describe_eq_some_iff, mem_metadata_iff_fieldAt]
  constructor
  · rintro ⟨⟨above, d, kind, hd, htags, hdescribed, rfl⟩, hmark⟩
    refine ⟨⟨above, d, kind, hd.declaredIn, ?_, hdescribed, rfl⟩, ?_⟩
    · rw [Option.eq_none_iff_forall_ne_some]
      intro inner hinner
      have hrecord := isRecord_required_iff.mpr ⟨inner, hinner⟩
      exact Bool.false_ne_true (hmark.symm.trans hrecord)
    · show pathTo above d = path
      rw [pathTo, htags, join_segments]
  · rintro ⟨⟨above, d, kind, hd, hrecord, hdescribed, rfl⟩, rfl⟩
    exact ⟨⟨above, d, kind, hd.firstIn hr, (hd.segments_pathTo hr).symm, hdescribed, rfl⟩,
      isRecord_required hrecord⟩

/-- The descriptions of records are those of the declared records. -/
theorem describe_record_iff (hr : FieldsRegular declared) :
    (Shape.record name declared).describe path = some f ∧ f.isRecord = true ↔
      ∃ above d inner, DeclaredIn declared above d ∧ pathTo above d = path ∧
        d.shape.recordFields? = some inner ∧ f = fieldAt above d .record := by
  rw [describe_eq_some_iff]
  constructor
  · rintro ⟨⟨above, d, kind, hd, htags, hdescribed, rfl⟩, hmark⟩
    obtain ⟨inner, hinner⟩ := isRecord_required_iff.mp hmark
    have hkind := kind?_required_eq_some_iff.mpr hdescribed
    rw [kind?_of_recordFields? hinner] at hkind
    cases hkind
    refine ⟨above, d, inner, hd.declaredIn, ?_, hinner, rfl⟩
    rw [pathTo, htags, join_segments]
  · rintro ⟨above, d, inner, hd, rfl, hinner, rfl⟩
    have hdescribed := kind?_required_eq_some_iff.mp (kind?_of_recordFields? hinner)
    exact ⟨⟨above, d, .record, hd.firstIn hr, (hd.segments_pathTo hr).symm, hdescribed, rfl⟩,
      isRecord_required_iff.mpr ⟨inner, hinner⟩⟩

/-- The leaves declared inside a record are those whose paths go on below its path. -/
theorem mem_metadata_below_iff (hr : FieldsRegular declared) (hd : DeclaredIn declared above d)
    (hinner : d.shape.recordFields? = some inner) :
    (∃ more e kind, DeclaredIn inner more e ∧ LeafShape e.shape.required kind ∧
      f = leafField (above ++ d :: more) e kind) ↔
      f ∈ (Shape.record name declared).metadata ∧
        ∃ rest, f.path = pathTo above d ++ "." ++ rest := by
  rw [mem_metadata_record_iff hr]
  constructor
  · rintro ⟨more, e, kind, he, hleaf, rfl⟩
    have hbelow : DeclaredIn declared (above ++ d :: more) e :=
      declaredIn_append_iff.mpr ⟨hd, inner, hinner, he⟩
    exact ⟨⟨_, e, kind, hbelow, hleaf, rfl⟩, pathTo more e, pathTo_append above d more e⟩
  · rintro ⟨⟨around, e, kind, he, hleaf, rfl⟩, rest, hrest⟩
    have htags : tagsTo around e = tagsTo above d ++ segments rest := by
      rw [← he.segments_pathTo hr, ← hd.segments_pathTo hr, ← segments_append, ← hrest]
      rfl
    obtain ⟨outer, c, more, rfl, houter, -⟩ :=
      exists_above_of_tagsTo htags (tagsTo_ne_nil above d) (segments_ne_nil rest)
    obtain ⟨hc, inner', hinner', hmore⟩ := declaredIn_append_iff.mp he
    obtain ⟨rfl, rfl⟩ := hc.unique hd hr houter
    cases hinner.symm.trans hinner'
    exact ⟨more, e, kind, hmore, hleaf, rfl⟩

/-! ## Keys of operations -/

/-- The key describes a record without leaves. -/
def NamesHollow (shape : Shape) (key : String) : Prop :=
  ∃ f, shape.describe key = some f ∧ f.isRecord = true ∧
    ¬ ∃ g ∈ shape.metadata, ∃ rest, g.path = key ++ "." ++ rest

variable {key : String}

/-- No entry of the list of leaves has a path that describes nothing or a record. -/
theorem leafAt?_metadata_eq_none (hr : FieldsRegular declared)
    (hnot : ∀ f, (Shape.record name declared).describe key = some f → f.isRecord = true) :
    Merge.leafAt? (Shape.record name declared).metadata key = none := by
  have hs : Merge.Separate (Shape.record name declared).metadata := separate_metadata hr
  rw [Merge.leafAt?_eq_none_iff hs]
  intro f hf hpath
  obtain ⟨hdescribe, hmark⟩ := (describe_leaf_iff hr).mpr ⟨hf, hpath⟩
  exact Bool.false_ne_true (hmark.symm.trans (hnot f hdescribe))

/-- A key names for operations what the description at it tells, unless that is a record without
leaves. -/
theorem roleOf_metadata (hr : FieldsRegular declared)
    (hleaves : ¬ NamesHollow (.record name declared) key) :
    roleOf (Shape.record name declared).metadata key = (Shape.record name declared).role key := by
  have hs : Merge.Separate (Shape.record name declared).metadata := separate_metadata hr
  unfold roleOf role
  cases hdescribe : (Shape.record name declared).describe key with
  | none =>
    have hrecord : ¬ Merge.isRecordPath (Shape.record name declared).metadata key = true := by
      rw [isRecordPath_metadata_iff hr]
      rintro ⟨above, d, inner, hd, hpath, hinner, -⟩
      have hat : (Shape.record name declared).describe key = some (fieldAt above d .record) :=
        ((describe_record_iff hr).mpr ⟨above, d, inner, hd, hpath, hinner, rfl⟩).1
      rw [hdescribe] at hat
      cases hat
    rw [leafAt?_metadata_eq_none hr fun f hf => by rw [hdescribe] at hf; cases hf]
    exact if_neg hrecord
  | some f =>
    cases hmark : f.isRecord with
    | false =>
      have hentry := (describe_leaf_iff hr).mp ⟨hdescribe, hmark⟩
      rw [(Merge.leafAt?_eq_some_iff hs).mpr hentry]
      simp [hmark]
    | true =>
      have hbelow := Classical.not_not.mp fun hnone => hleaves ⟨f, hdescribe, hmark, hnone⟩
      have hrecord := Merge.isRecordPath_iff.mpr hbelow
      rw [Merge.leafAt?_of_isRecordPath hs hrecord]
      simp [hrecord, hmark]

/-- A record without leaves is unknown to operations. -/
theorem roleOf_hollow (hr : FieldsRegular declared)
    (hhollow : NamesHollow (.record name declared) key) :
    roleOf (Shape.record name declared).metadata key = .unknown := by
  obtain ⟨f, hdescribe, hmark, hnone⟩ := hhollow
  have hleaf : Merge.leafAt? (Shape.record name declared).metadata key = none := by
    refine leafAt?_metadata_eq_none hr fun g hg => ?_
    rw [hdescribe] at hg
    cases hg
    exact hmark
  unfold roleOf
  rw [hleaf]
  exact if_neg fun hrecord => hnone (Merge.isRecordPath_iff.mp hrecord)

theorem role_eq_unknown_iff {shape : Shape} :
    shape.role key = .unknown ↔ shape.describe key = none := by
  unfold role
  cases shape.describe key with
  | none => simp
  | some f => cases hmark : f.isRecord <;> simp [hmark]

theorem roleOf_metadata_eq_unknown_iff (hr : FieldsRegular declared) :
    roleOf (Shape.record name declared).metadata key = .unknown ↔
      (Shape.record name declared).describe key = none ∨
        NamesHollow (.record name declared) key := by
  by_cases hhollow : NamesHollow (.record name declared) key
  · simp [roleOf_hollow hr hhollow, hhollow]
  · rw [roleOf_metadata hr hhollow, role_eq_unknown_iff]
    simp [hhollow]

/-- For a document type whose tags hold no dots, whose records give their fields different tags and
in which no value is optional twice: a path describes a field that is no record exactly when that
field is the one entry with this path in the list of leaves; it describes a record exactly when it
is the path of a declared record, and the leaves declared in the record, at any depth, are then
those whose paths go on below it. An operation does to any document what the description at its key
tells, except that a record without leaves is unknown to it; so a run of operations reports as
unknown just the keys that describe nothing, or a record without leaves. -/
theorem names_agree {name : String} {fields : List (Declared Shape)}
    (h : (Shape.record name fields).Regular) :
    (∀ path f, (Shape.record name fields).describe path = some f ∧ f.isRecord = false ↔
      f ∈ (Shape.record name fields).metadata ∧ f.path = path ∧
        ∀ g ∈ (Shape.record name fields).metadata, g.path = path → g = f) ∧
    (∀ path f, (Shape.record name fields).describe path = some f ∧ f.isRecord = true ↔
      ∃ above d inner, DeclaredIn fields above d ∧ pathTo above d = path ∧
        d.shape.recordFields? = some inner ∧ f = fieldAt above d .record) ∧
    (∀ above d inner, DeclaredIn fields above d → d.shape.recordFields? = some inner → ∀ f,
      (∃ more e kind, DeclaredIn inner more e ∧ LeafShape e.shape.required kind ∧
        f = leafField (above ++ d :: more) e kind) ↔
      f ∈ (Shape.record name fields).metadata ∧
        ∃ rest, f.path = pathTo above d ++ "." ++ rest) ∧
    (∀ op document source,
      (¬ NamesHollow (.record name fields) op.key →
        Merge.effect document op (Shape.record name fields).metadata source =
          ((Shape.record name fields).role op.key).effect document op source) ∧
      (NamesHollow (.record name fields) op.key →
        Merge.effect document op (Shape.record name fields).metadata source =
          .reject (.unknownField op.key source))) ∧
    (∀ ops document source key, .unknownField key source ∈
        (Merge.apply document ops (Shape.record name fields).metadata source).2 ↔
      (∃ op ∈ ops, op.key = key) ∧ ((Shape.record name fields).describe key = none ∨
        NamesHollow (.record name fields) key)) := by
  rw [Regular] at h
  refine ⟨fun path f => ?_, fun path f => describe_record_iff h, fun above d inner hd hinner f =>
    mem_metadata_below_iff h hd hinner, fun op document source => ⟨fun hleaves => ?_,
      fun hhollow => ?_⟩, fun ops document source key => ?_⟩
  · rw [describe_leaf_iff h]
    have hs : Merge.Separate (Shape.record name fields).metadata := separate_metadata h
    constructor
    · rintro ⟨hf, hpath⟩
      refine ⟨hf, hpath, fun g hg hsame => ?_⟩
      exact hs.eq_of_prefix hg hf (hsame.trans hpath.symm ▸ List.prefix_rfl)
    · rintro ⟨hf, hpath, -⟩
      exact ⟨hf, hpath⟩
  · rw [Merge.effect_eq_role, roleOf_metadata h hleaves]
  · rw [Merge.effect_eq_role, roleOf_hollow h hhollow]
    rfl
  · rw [Merge.unknownField_mem_apply_iff, roleOf_metadata_eq_unknown_iff h]

/-- Whether a ticket is open, a flag. -/
def openField : Declared Shape := ⟨"open", "open", .flag⟩

/-- The state of a ticket, which may be absent. -/
def stateField : Declared Shape :=
  ⟨"status_state", "state",
    .optional (.record "State" [openField, ⟨"marks", "marks", .list .text⟩])⟩

/-- A record that has no fields yet. -/
def spareField : Declared Shape := ⟨"spare", "spare", .record "Spare" []⟩

/-- The fields of a ticket. -/
def ticketFields : List (Declared Shape) := [stateField, spareField, ⟨"title", "title", .text⟩]

/-- The flag of a ticket is described at its path as it is listed, with the category of the state.
The record without fields is described, but an operation that clears it is told that it is
unknown. -/
theorem names_agree_ticket :
    (Shape.record "Ticket" ticketFields).Regular ∧
    fieldAt [stateField] openField .flag ∈ (Shape.record "Ticket" ticketFields).metadata ∧
    (Shape.record "Ticket" ticketFields).describe "spare" = some (fieldAt [] spareField .record) ∧
    Merge.effect .null ⟨.set, "spare", .null⟩ (Shape.record "Ticket" ticketFields).metadata
      ⟨"a.yml"⟩ = .reject (.unknownField "spare" ⟨"a.yml"⟩) := by
  have hregular : (Shape.record "Ticket" ticketFields).Regular := by
    simp [ticketFields, stateField, openField, spareField, Shape.Regular, Shape.FieldsRegular,
      Shape.isOptional]
  obtain ⟨hentry, hrecord, -, heffect, -⟩ := names_agree hregular
  have hflag : (Shape.record "Ticket" ticketFields).describe "state.open" =
      some (fieldAt [stateField] openField .flag) :=
    describe_eq_some_iff.mpr ⟨[stateField], openField, .flag, .inside rfl rfl (.here rfl),
      by decide, .once (.leaf .flag), rfl⟩
  have hspare := (hrecord "spare" _).mpr ⟨[], spareField, [], .here (by simp [ticketFields]),
    pathTo_nil spareField, rfl, rfl⟩
  have hhollow : NamesHollow (.record "Ticket" ticketFields) "spare" := by
    refine ⟨_, hspare.1, hspare.2, fun hbelow => ?_⟩
    have hnot :
        Merge.isRecordPath (Shape.record "Ticket" ticketFields).metadata "spare" = false := by
      decide +kernel
    exact Bool.false_ne_true (hnot.symm.trans (Merge.isRecordPath_iff.mpr hbelow))
  exact ⟨hregular, ((hentry "state.open" _).mp ⟨hflag, rfl⟩).1, hspare.1,
    (heffect ⟨.set, "spare", .null⟩ .null ⟨"a.yml"⟩).2 hhollow⟩

end Shape

end LayeredConfig
