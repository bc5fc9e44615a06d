import LayeredConfig.Proofs.Merge.Rejection
import LayeredConfig.Proofs.Operation.Keys
import LayeredConfig.Proofs.Settings.Typed

/-
  Which keys of a mapping are reported. An operation is accepted exactly when the fields admit the
  datum that it stands for at its key (`rejection?_eq_none_iff`), so every path of keys to a datum
  that is no mapping is admitted or reported. A mapping has no operation of its own: it is told from
  the operations inside it, and a hollow one, which has none, goes unreported wherever it stands.
  `silent_iff_admitted_or_hollow` says that nothing else does; `empty_mapping_unreported` is a key
  that names nothing and is not reported.
-/

namespace LayeredConfig

open Yaml (Datum)

/-! ## Nulls -/

/-- Null, and the numbers whose value is null: those that are not finite. -/
def Yaml.Datum.isNull : Datum → Bool
  | .null | .number (.infinity _) | .number .nan => true
  | _ => false

theorem Yaml.Datum.toValue_eq_null_iff {d : Datum} :
    d.toValue = .ok .null ↔ d.isNull = true := by
  cases d with
  | number n => cases n <;> simp [toValue, numberValue, isNull]
  | sequence items =>
    have hne : (Datum.sequence items).toValue ≠ .ok .null := by
      rw [toValue]
      cases itemValues items <;> simp [bind, Except.bind, pure, Except.pure]
    simp [hne, isNull]
  | mapping entries =>
    have hne : (Datum.mapping entries).toValue ≠ .ok .null := by
      rw [toValue]
      cases entryValues entries <;> simp [bind, Except.bind, pure, Except.pure, Value.ofFields]
    simp [hne, isNull]
  | tagged tag content =>
    have hne : (Datum.tagged tag content).toValue ≠ .ok .null := by
      rw [toValue]
      cases content.toValue <;> simp [bind, Except.bind, pure, Except.pure]
    simp [hne, isNull]
  | _ => simp [toValue, isNull]

namespace Merge

variable {fields : List Field} {document : Value} {source : FilePath} {op : Operation} {d : Datum}
  {path : String}

/-! ## What may stand at a key -/

/-- What may stand at a key: a value of the kind of the leaf there, null if the leaf may be absent,
and a mapping or null at the place of a record. -/
inductive Admits (fields : List Field) (path : String) (d : Datum) : Prop
  | value {f : Field} {v : Value} {leaf : Leaf} (hf : f ∈ fields) (hpath : f.path = path)
    (hv : d.toValue = .ok v) (hleaf : Leaf.ofValue? f.kind v = some leaf) : Admits fields path d
  | absent {f : Field} (hf : f ∈ fields) (hpath : f.path = path) (hopt : f.isOptional = true)
    (hd : d.isNull = true) : Admits fields path d
  | record (hrecord : ∃ f ∈ fields, ∃ rest, f.path = path ++ "." ++ rest)
    {entries : List (Datum × Datum)} (hd : d = .mapping entries) : Admits fields path d
  | noRecord (hrecord : ∃ f ∈ fields, ∃ rest, f.path = path ++ "." ++ rest)
    (hd : d.isNull = true) : Admits fields path d

/-- Above a key where something may stand there is a record. -/
theorem Admits.record_above {rest : String} (h : Admits fields (path ++ "." ++ rest) d) :
    ∃ f ∈ fields, ∃ rest, f.path = path ++ "." ++ rest := by
  have hbelow : ∀ {more : String}, path ++ "." ++ rest ++ "." ++ more =
      path ++ "." ++ (rest ++ "." ++ more) := by
    intro more
    simp only [String.append_assoc]
  cases h with
  | value hf hpath _ _ => exact ⟨_, hf, rest, hpath⟩
  | absent hf hpath _ _ => exact ⟨_, hf, rest, hpath⟩
  | record hrecord _ =>
    obtain ⟨f, hf, more, hpath⟩ := hrecord
    exact ⟨f, hf, _, hpath.trans hbelow⟩
  | noRecord hrecord _ =>
    obtain ⟨f, hf, more, hpath⟩ := hrecord
    exact ⟨f, hf, _, hpath.trans hbelow⟩

theorem isNull_iff_of_toValue (hv : d.toValue = .ok op.value) :
    op.value.isNull = true ↔ d.isNull = true := by
  rw [← Datum.toValue_eq_null_iff, hv]
  cases op.value <;> simp [Value.isNull]

/-- An operation is accepted when the fields admit what it stands for at its key. -/
theorem rejection?_eq_none_iff (hs : Separate fields) (hd : d.entries? = none)
    (hv : d.toValue = .ok op.value) :
    rejection? fields source op = none ↔ Admits fields op.key d := by
  have hnull := isNull_iff_of_toValue hv
  constructor
  · intro h
    unfold rejection? at h
    cases hleaf : leafAt? fields op.key with
    | some f =>
      obtain ⟨hf, hpath⟩ := of_leafAt?_eq_some hleaf
      rw [hleaf] at h
      dsimp only [leafRejection?] at h
      split at h
      · next hvalue =>
        split at h
        · next hopt => exact .absent hf hpath hopt (hnull.mp hvalue)
        · cases h
      · split at h
        · next incoming hincoming => exact .value hf hpath hv hincoming
        · cases h
    | none =>
      rw [hleaf] at h
      dsimp only at h
      split at h
      · next hrecord =>
        split at h
        · next hvalue => exact .noRecord (isRecordPath_iff.mp hrecord) (hnull.mp hvalue)
        · cases h
      · cases h
  · intro h
    unfold rejection?
    cases h with
    | value hf hpath hv' hincoming =>
      cases hv.symm.trans hv'
      have hvalue := Leaf.isNull_of_ofValue? hincoming
      simp [(leafAt?_eq_some_iff hs).mpr ⟨hf, hpath⟩, leafRejection?, hvalue, hincoming]
    | absent hf hpath hopt hd =>
      simp [(leafAt?_eq_some_iff hs).mpr ⟨hf, hpath⟩, leafRejection?, hnull.mpr hd, hopt]
    | record _ hmapping =>
      -- no operation stands for a mapping
      rw [hmapping] at hd
      cases hd
    | noRecord hrecord hd =>
      have hpath := isRecordPath_iff.mpr hrecord
      simp [leafAt?_of_isRecordPath hs hpath, hpath, hnull.mpr hd]

/-! ## Files without problems -/

variable {entries : List (Datum × Datum)} {ops : List Operation}

/-- At a mapping that is not hollow stands a record, if no operation is rejected. -/
theorem admits_of_not_hollow (hs : Separate fields) (hops : Operation.collect entries = .ok ops)
    (haccepted : ∀ op ∈ ops, rejection? fields source op = none) {rawKeys : List String}
    {inner : List (Datum × Datum)} (hpath : Operation.KeyPath entries rawKeys (.mapping inner))
    (hhollow : ¬ (Datum.mapping inner).Hollow) :
    Admits fields (Operation.dotted rawKeys) (.mapping inner) := by
  obtain ⟨outer, more, hmore, hsub⟩ := Operation.ofEntries_of_keyPath hpath hops
  have hne : more ≠ [] := fun hnil => hhollow ((Operation.ofEntries_eq_nil_iff hmore).mp hnil)
  obtain ⟨op, hop⟩ := List.exists_mem_of_ne_nil more hne
  obtain ⟨below, leaf, -, hleaf, hvalue, hkey, -⟩ := Operation.keyPath_of_mem hmore hop
  have hadmits := (rejection?_eq_none_iff hs hleaf hvalue).mp (haccepted op (hsub hop))
  rw [hkey] at hadmits
  exact .record hadmits.record_above rfl

/-- A file reports nothing exactly when every path of its keys is admitted or leads to a hollow
mapping. -/
theorem apply_eq_nil_iff (hs : Separate fields) (hr : Readable fields document)
    (hops : Operation.collect entries = .ok ops) (source : FilePath) :
    (apply document ops fields source).2 = [] ↔
      ∀ rawKeys d, Operation.KeyPath entries rawKeys d →
        Admits fields (Operation.dotted rawKeys) d ∨ d.Hollow := by
  rw [apply_problems hs hr, List.filterMap_eq_nil_iff]
  constructor
  · intro haccepted rawKeys d hpath
    cases hd : d.entries? with
    | none =>
      obtain ⟨v, hv, hop⟩ := Operation.mem_of_keyPath hpath hd hops
      exact .inl ((rejection?_eq_none_iff hs hd hv).mp (haccepted _ hop))
    | some inner =>
      cases Datum.entries?_eq_some_iff.mp hd
      by_cases hhollow : (Datum.mapping inner).Hollow
      · exact .inr hhollow
      · exact .inl (admits_of_not_hollow hs hops haccepted hpath hhollow)
  · intro hall op hop
    obtain ⟨rawKeys, d, hpath, hd, hv, hkey, -⟩ := Operation.keyPath_of_mem hops hop
    rcases hall rawKeys d hpath with hadmits | hhollow
    · refine (rejection?_eq_none_iff hs hd hv).mpr ?_
      rw [hkey]
      exact hadmits
    · obtain ⟨inner, hinner, -⟩ := hhollow.exists_entries
      cases hd.symm.trans hinner

/-- A mapping that is merged into a document of the settings reports no problem exactly when each
of its paths of keys is admitted, or leads to a mapping that holds nothing but mappings. An
admitted path, marks stripped and joined by dots, is that of a leaf with a value of its kind, or
with null if the leaf may be absent, or that of the record with a mapping or null. -/
theorem silent_iff_admitted_or_hollow (hops : Operation.collect entries = .ok ops)
    (hdoc : Settings.Typed document) (source : FilePath) :
    (apply document ops Settings.shape.metadata source).2 = [] ↔
      ∀ rawKeys d, Operation.KeyPath entries rawKeys d →
        Admits Settings.shape.metadata (Operation.dotted rawKeys) d ∨ d.Hollow :=
  have hs := SettingLeaf.separate_metadata
  apply_eq_nil_iff hs (hdoc.conforms.readable hs) hops source

/-- A mapping with a record that is given a field, a list to append, and a null. -/
def admittedEntries : List (Datum × Datum) :=
  [(.string "=verification", .mapping [(.string "verify_on_create", .bool true)]),
    (.string "+exclude_patterns", .sequence [.string "*.tmp"]), (.string "default_note", .null)]

theorem silent_iff_admitted_or_hollow_admitted :
    Operation.collect admittedEntries = .ok
        [⟨.fill, "verification.verify_on_create", .bool true⟩,
          ⟨.append, "exclude_patterns", .array [.string "*.tmp"]⟩, ⟨.set, "default_note", .null⟩] ∧
      Settings.Typed Settings.default.toValue ∧
      ∀ rawKeys d, Operation.KeyPath admittedEntries rawKeys d →
        Admits Settings.shape.metadata (Operation.dotted rawKeys) d ∨ d.Hollow := by
  have hops : Operation.collect admittedEntries = .ok
      [⟨.fill, "verification.verify_on_create", .bool true⟩,
        ⟨.append, "exclude_patterns", .array [.string "*.tmp"]⟩, ⟨.set, "default_note", .null⟩] :=
    toOption_eq_some_iff.mp (by decide +kernel)
  have hdoc := Settings.typed_toValue Settings.default
  have hs := SettingLeaf.separate_metadata
  refine ⟨hops, hdoc, (silent_iff_admitted_or_hollow hops hdoc ⟨"/r/a.yml"⟩).mp ?_⟩
  rw [apply_problems hs (hdoc.conforms.readable hs)]
  decide +kernel

/-- A key that names nothing is not reported when an empty mapping stands there. -/
theorem empty_mapping_unreported :
    ∃ ops, Operation.collect [(.string "nope", .mapping [])] = .ok ops ∧
      (apply Settings.default.toValue ops Settings.shape.metadata ⟨"child.yml"⟩).2 = [] ∧
      Operation.KeyPath [(.string "nope", .mapping [])] ["nope"] (.mapping []) ∧
      Operation.dotted ["nope"] = "nope" ∧
      (∀ f ∈ Settings.shape.metadata, f.path ≠ "nope") ∧
      isRecordPath Settings.shape.metadata "nope" = false := by
  refine ⟨[], by rfl, rfl, .here List.mem_cons_self rfl, by decide +kernel, ?_, ?_⟩
  · intro f hf hpath
    obtain ⟨leaf, rfl⟩ := SettingLeaf.mem_metadata_iff.mp hf
    cases leaf with
    | own s h =>
      have hkeys : ∀ s ∈ Setting.all, s.key ≠ "nope" := by decide
      exact hkeys s s.mem_all hpath
    | part p => cases p <;> exact absurd hpath (by decide)
  · refine Bool.eq_false_iff.mpr fun hrecord => ?_
    exact absurd (SettingLeaf.isRecordPath_metadata_iff.mp hrecord) (by decide)

end Merge

end LayeredConfig
