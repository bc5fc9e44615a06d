import LayeredConfig.Proofs.Merge.Writes
import LayeredConfig.Proofs.Resolution.Layers

/-
  What the environment changes in a resolution. Over the tree of the settings before it, every
  leaf whose variable can be read gets its value and no other leaf changes (`get?_overlay`). When
  the tree is read as settings again, one thing is added: a verification record that was missing
  and is given a field gets the others by default. `environment_overrides` compares a resolution
  with the one that has no environment.
-/

namespace LayeredConfig

open Value
open VerificationSettings (Part)

/-! ## Variables of fields -/

namespace Environment

variable {environment : Environment} {fields : List Field} {f : Field}

/-- The leaf that the environment gives a field: the text of its variable, if it can be read. -/
def override? (environment : Environment) (f : Field) : Option Leaf :=
  (environment.lookup (variableOf f.path)).bind (Leaf.parse? f.kind)

theorem kind_of_override? {leaf : Leaf} (h : environment.override? f = some leaf) :
    leaf.kind = f.kind := by
  obtain ⟨text, -, hparse⟩ := Option.bind_eq_some_iff.mp h
  exact Leaf.kind_of_parse? hparse

theorem mem_capture_iff {name text : String} :
    (name, text) ∈ environment.capture fields ↔
      ∃ f ∈ fields, f.isRecord = false ∧ variableOf f.path = name ∧
        environment.lookup name = some text := by
  simp only [capture, List.mem_filterMap, List.mem_filter, Bool.not_eq_true', and_assoc,
    Option.map_eq_some_iff, Prod.mk.injEq]
  constructor
  · rintro ⟨f, hf, hleaf, _, htext, rfl, rfl⟩
    exact ⟨f, hf, hleaf, rfl, htext⟩
  · rintro ⟨f, hf, hleaf, rfl, htext⟩
    exact ⟨f, hf, hleaf, text, htext, rfl, rfl⟩

/-- The variable of a field has the text that it has in the whole environment. -/
theorem lookup_capture (hf : f ∈ fields) (hleaf : f.isRecord = false) :
    (environment.capture fields).lookup (variableOf f.path) =
      environment.lookup (variableOf f.path) := by
  cases hcaptured : (environment.capture fields).lookup (variableOf f.path) with
  | some text =>
    obtain ⟨before, after, hsplit, -⟩ := List.lookup_eq_some_iff.mp hcaptured
    have hmem : (variableOf f.path, text) ∈ environment.capture fields := by
      rw [hsplit]
      exact List.mem_append_right _ List.mem_cons_self
    obtain ⟨-, -, -, -, htext⟩ := mem_capture_iff.mp hmem
    exact htext.symm
  | none =>
    cases hset : environment.lookup (variableOf f.path) with
    | none => rfl
    | some text =>
      have hmem := mem_capture_iff.mpr ⟨f, hf, hleaf, rfl, hset⟩
      have hne := List.lookup_eq_none_iff.mp hcaptured _ hmem
      rw [bne_self_eq_false] at hne
      cases hne

/-- Capturing loses nothing that a field is given. -/
theorem override?_capture (hf : f ∈ fields) (hleaf : f.isRecord = false) :
    (environment.capture fields).override? f = environment.override? f := by
  rw [override?, override?, lookup_capture hf hleaf]

@[simp] theorem override?_nil (f : Field) : override? [] f = none := rfl

end Environment

namespace Resolution

variable {fs : FileSystem} {home : Option FilePath} {search : SearchPath} {mode : Mode}
  {environment : Environment} {c c' : Settings} {f : Field}

/-! ## The tree with the environment over it -/

theorem overlay_eq_writeLeaves (document : Value) (environment : Environment) :
    overlay document environment fields =
      Merge.writeLeaves (fun f => (environment.override? f).map Leaf.toValue) document fields := by
  rw [overlay, separate_fields.filter_leaves, Merge.writeLeaves]
  congr 1
  funext doc f
  unfold Merge.writeLeaf Environment.override?
  dsimp only
  cases environment.lookup (Environment.variableOf f.path) with
  | none => rfl
  | some text =>
    dsimp only [Option.bind_some]
    cases Leaf.parse? f.kind text <;> rfl

/-- What the environment gives the fields decides the tree. -/
theorem overlay_congr {other : Environment}
    (h : ∀ f ∈ fields, other.override? f = environment.override? f) (document : Value) :
    overlay document other fields = overlay document environment fields := by
  rw [overlay_eq_writeLeaves, overlay_eq_writeLeaves]
  exact Merge.writeLeaves_congr (fun f hf => by rw [h f hf]) document

@[simp] theorem overlay_capture (document : Value) (environment : Environment) :
    overlay document (environment.capture fields) fields = overlay document environment fields :=
  overlay_congr
    (fun f hf => Environment.override?_capture hf (separate_fields.isRecord_eq f hf)) document

theorem get?_overlay (hf : f ∈ fields) (document : Value) (environment : Environment) :
    (overlay document environment fields).get? f.path =
      ((environment.override? f).map Leaf.toValue).or (document.get? f.path) := by
  rw [overlay_eq_writeLeaves, Merge.get?_writeLeaves separate_fields hf]

/-- The environment gives some field of the record a value. -/
def GivesPart (environment : Environment) : Prop :=
  ∃ p : Part, (environment.override? (SettingLeaf.part p).field).isSome = true

/-- The record is missing with the environment over the settings if it was missing before and no
field of it is given. -/
theorem field?_overlay_eq_null_iff (c : Settings) (environment : Environment) :
    (overlay c.toValue environment fields).field? Setting.verification.key = some .null ↔
      c .verification = none ∧ ¬ GivesPart environment := by
  constructor
  · intro hnull
    have hnode : ∀ p : Part,
        (environment.override? (SettingLeaf.part p).field).map Leaf.toValue = none ∧
          c.toValue.get? (SettingLeaf.part p).field.path = none := by
      intro p
      have h := get?_overlay (SettingLeaf.part p).field_mem c.toValue environment
      rw [SettingLeaf.get?_part, hnull] at h
      exact Option.or_eq_none_iff.mp h.symm
    refine ⟨((Settings.get?_toValue_eq_none_iff (SettingLeaf.field_mem _)).mp
      (hnode .verify).2).2, ?_⟩
    rintro ⟨p, hp⟩
    rw [Option.map_eq_none_iff.mp (hnode p).1] at hp
    cases hp
  · rintro ⟨hrecord, hgives⟩
    have happart : ∀ f ∈ fields, (environment.override? f).map Leaf.toValue ≠ none →
        Apart (segments f.path) (segments Setting.verification.key) := by
      intro f hf hgiven
      obtain ⟨leaf, rfl⟩ := SettingLeaf.mem_metadata_iff.mp hf
      rw [leaf.segments_path, Setting.segments_key]
      cases leaf with
      | own s hs => exact apart_of_head_ne (SettingLeaf.key_ne_verification hs) [] []
      | part p =>
        rw [ne_eq, Option.map_eq_none_iff, ← ne_eq, ← Option.isSome_iff_ne_none] at hgiven
        exact absurd ⟨p, hgiven⟩ hgives
    rw [← SettingLeaf.get?_key, overlay_eq_writeLeaves, Merge.get?_writeLeaves_of_apart happart,
      SettingLeaf.get?_key, Settings.field?_toValue, hrecord]
    rfl

/-! ## The settings with the environment over them -/

/-- The settings have no record, but the environment gives some field of it. -/
def CreatesRecord (environment : Environment) (c : Settings) : Prop :=
  c .verification = none ∧ GivesPart environment

/-- The record is missing afterwards if it was missing before and is not created. -/
theorem verification_eq_none_iff
    (h : Settings.decode (overlay c.toValue environment fields) = .ok c') :
    c' .verification = none ↔ c .verification = none ∧ ¬ CreatesRecord environment c := by
  have hnull := field?_overlay_eq_null_iff c environment
  rcases (typed_overlay c environment).record_of_decode h with
    ⟨hrecord, hnone⟩ | ⟨record, r, hrecord, hsome, -⟩
  · obtain ⟨hbefore, hgives⟩ := hnull.mp hrecord
    exact iff_of_true hnone ⟨hbefore, fun hcreates => hgives hcreates.2⟩
  · refine iff_of_false (by rw [hsome]; exact Option.some_ne_none r) ?_
    rintro ⟨hbefore, hcreates⟩
    have hobject := hnull.mpr ⟨hbefore, fun hgives => hcreates ⟨hbefore, hgives⟩⟩
    rw [hrecord] at hobject
    cases hobject

/-- A leaf that is given is in the settings. -/
theorem get?_of_override (h : Settings.decode (overlay c.toValue environment fields) = .ok c')
    (hf : f ∈ fields) {leaf : Leaf} (hleaf : environment.override? f = some leaf) :
    c'.toValue.get? f.path = some leaf.toValue := by
  have hnode := get?_overlay hf c.toValue environment
  rw [hleaf, Option.map_some, Option.some_or] at hnode
  rw [((typed_overlay c environment).get?_toValue h hf).2, hnode]
  rintro ⟨hnone, -⟩
  cases hnode.symm.trans hnone

/-- A leaf that is not given keeps its node, unless it belongs to a record that is created. -/
theorem get?_of_no_override (h : Settings.decode (overlay c.toValue environment fields) = .ok c')
    (hf : f ∈ fields) (hnone : environment.override? f = none)
    (hcreates : ∀ p, f = (SettingLeaf.part p).field → ¬ CreatesRecord environment c) :
    c'.toValue.get? f.path = c.toValue.get? f.path := by
  have hnode := get?_overlay hf c.toValue environment
  rw [hnone, Option.map_none, Option.none_or] at hnode
  rw [((typed_overlay c environment).get?_toValue h hf).2, hnode]
  rintro ⟨hmissing, record, hrecord⟩
  rw [hnode] at hmissing
  obtain ⟨⟨p, hp⟩, hbefore⟩ := (Settings.get?_toValue_eq_none_iff hf).mp hmissing
  have hobject := (field?_overlay_eq_null_iff c environment).mpr
    ⟨hbefore, fun hgives => hcreates p hp ⟨hbefore, hgives⟩⟩
  rw [← SettingLeaf.get?_key, hrecord] at hobject
  cases hobject

/-- In a record that is created, a field that is not given has its default. -/
theorem get?_of_createsRecord
    (h : Settings.decode (overlay c.toValue environment fields) = .ok c')
    (hcreates : CreatesRecord environment c) {p : Part}
    (hnone : environment.override? (SettingLeaf.part p).field = none) :
    c'.toValue.get? (SettingLeaf.part p).field.path =
      some (VerificationSettings.default.part p).toValue := by
  have hf := (SettingLeaf.part p).field_mem
  have hmissing := get?_overlay hf c.toValue environment
  rw [hnone, Option.map_none, Option.none_or,
    (Settings.get?_toValue_eq_none_iff hf).mpr ⟨⟨p, rfl⟩, hcreates.1⟩] at hmissing
  have hobject : ∃ record, (overlay c.toValue environment fields).get?
      Setting.verification.key = some (.object record) := by
    rw [SettingLeaf.get?_key]
    refine (typed_overlay c environment).record.resolve_left fun hnull => ?_
    exact ((field?_overlay_eq_null_iff c environment).mp hnull).2 hcreates.2
  rw [((typed_overlay c environment).get?_toValue h hf).1 ⟨hmissing, hobject⟩]
  exact VerificationSettings.field?_toValue _ p

/-! ## Discovered values -/

theorem value_refresh (hf : f ∈ fields) (document : Value) :
    (f.refresh document).value = f.valueIn document := by
  rw [Field.refresh, separate_fields.isRecord_eq f hf]
  rfl

theorem value_refresh_of_get? (hf : f ∈ fields) {document : Value} {leaf : Leaf}
    (hkind : leaf.kind = f.kind) (h : document.get? f.path = some leaf.toValue) :
    (f.refresh document).value = some leaf := by
  rw [value_refresh hf, Field.valueIn, h, ← hkind, Leaf.ofNode?_toValue]

/-! ## Two resolutions -/

/-- An environment that gives no field a leaf leaves the settings of the files as they are. -/
theorem load_of_no_override (h : ∀ f ∈ fields, environment.override? f = none)
    (fs : FileSystem) (home : Option FilePath) (search : SearchPath) (mode : Mode) :
    load fs home search mode environment =
      { search
        mode
        settings := (fileLayers fs home search mode).settings
        active := (search.existing fs).head?
        applied := (fileLayers fs home search mode).applied
        environment := environment.capture fields
        problems := (fileLayers fs home search mode).problems } := by
  obtain ⟨c, hdecode, hload⟩ := load_eq fs home search mode environment
  have hoverlay : ∀ document,
      overlay document environment fields = overlay document [] fields := overlay_congr h
  rw [overlay_capture, hoverlay, overlay_nil, Settings.decode_toValue] at hdecode
  cases hdecode
  exact hload

theorem settings_load_of_no_override (h : ∀ f ∈ fields, environment.override? f = none)
    (fs : FileSystem) (home : Option FilePath) (search : SearchPath) (mode : Mode) :
    (load fs home search mode environment).settings = (fileLayers fs home search mode).settings :=
  congrArg Resolution.settings (load_of_no_override h fs home search mode)

/-- Without candidates and variables, the settings are the defaults. -/
theorem settings_load_nil (fs : FileSystem) (home : Option FilePath) (mode : Mode) :
    (load fs home [] mode []).settings = Settings.default := by
  rw [settings_load_of_no_override fun f _ => Environment.override?_nil f]
  cases mode with
  | inheritance =>
    have hchain : chainFiles fs home (SearchPath.existing fs []) = .ok [] := rfl
    obtain ⟨c, hdecode, hlayers⟩ := inheritanceLayers_of_chainFiles hchain
    rw [applyFiles, Settings.decode_toValue] at hdecode
    rw [fileLayers, hlayers]
    exact (Except.ok.inj hdecode).symm
  | legacy => rfl

/-- The settings of a resolution are those of its files with the environment over them. -/
theorem decode_overlay (fs : FileSystem) (home : Option FilePath) (search : SearchPath)
    (mode : Mode) (environment : Environment) :
    Settings.decode (overlay (load fs home search mode []).settings.toValue environment fields) =
      .ok (load fs home search mode environment).settings := by
  obtain ⟨c, hdecode, hload⟩ := load_eq fs home search mode environment
  rw [overlay_capture] at hdecode
  rw [load_of_no_override fun f _ => Environment.override?_nil f, hload]
  exact hdecode

/-- The environment changes the settings and nothing else that a resolution reports. Compared
with the resolution without it, every leaf whose variable can be read has the value read, and the
other leaves are as they were. There is one exception: a verification record that was missing is
created when some field of it is given, and its other fields have the defaults of the record. A
text that cannot be read is as good as none. -/
theorem environment_overrides (fs : FileSystem) (home : Option FilePath) (search : SearchPath)
    (mode : Mode) (environment : Environment) :
    ∃ run plain,
      load fs home search mode environment = run ∧ load fs home search mode [] = plain ∧
      run.applied = plain.applied ∧ run.active = plain.active ∧ run.problems = plain.problems ∧
      (∀ f ∈ fields, ∀ leaf, environment.override? f = some leaf →
        (f.refresh run.settings.toValue).value = some leaf) ∧
      (∀ f ∈ fields, environment.override? f = none →
        (∀ p, f = (SettingLeaf.part p).field → ¬ CreatesRecord environment plain.settings) →
          run.settings.toValue.get? f.path = plain.settings.toValue.get? f.path ∧
          (f.refresh run.settings.toValue).value = (f.refresh plain.settings.toValue).value) ∧
      (run.settings .verification = none ↔
        plain.settings .verification = none ∧ ¬ CreatesRecord environment plain.settings) ∧
      (CreatesRecord environment plain.settings →
        ∀ p, environment.override? (SettingLeaf.part p).field = none →
          ((SettingLeaf.part p).field.refresh run.settings.toValue).value =
            some (VerificationSettings.default.part p)) ∧
      ∀ other : Environment, (∀ f ∈ fields, other.override? f = environment.override? f) →
        (load fs home search mode other).settings = run.settings := by
  have hdecode := decode_overlay fs home search mode environment
  obtain ⟨c, -, hload⟩ := load_eq fs home search mode environment
  have hplain := load_of_no_override (fun f _ => Environment.override?_nil f) fs home search mode
  refine ⟨_, _, rfl, rfl, ?_, ?_, ?_, fun f hf leaf hleaf => ?_, fun f hf hnone hcreates => ?_,
    verification_eq_none_iff hdecode, fun hcreates p hnone => ?_, fun other hother => ?_⟩
  · rw [hload, hplain]
  · rw [hload, hplain]
  · rw [hload, hplain]
  · exact value_refresh_of_get? hf (Environment.kind_of_override? hleaf)
      (get?_of_override hdecode hf hleaf)
  · have hnode := get?_of_no_override hdecode hf hnone hcreates
    refine ⟨hnode, ?_⟩
    rw [value_refresh hf, value_refresh hf, Field.valueIn, hnode, Field.valueIn]
  · exact value_refresh_of_get? (SettingLeaf.part p).field_mem
      (VerificationSettings.kind_part _ p) (get?_of_createsRecord hdecode hcreates hnone)
  · have hsame := decode_overlay fs home search mode other
    rw [overlay_congr hother, hdecode] at hsame
    exact (Except.ok.inj hsame).symm

end Resolution

end LayeredConfig
