import LayeredConfig.Proofs.Resolution.Problems
import LayeredConfig.Proofs.Settings.Typed

/-
  The stages of a resolution. Every tree that is merged fits the settings, so it can be decoded:
  after the files of chains (`typed_applyFiles`), after a file that was read whole
  (`exists_mergeSettings`) and after the environment (`applyEnvironment_eq`). Hence no stage gives
  up its settings because of a tree, and none reports that a tree could not be decoded
  (`load_decodes`).
-/

namespace LayeredConfig.Resolution

open Value

variable {fs : FileSystem} {home : Option FilePath} {search : SearchPath}

/-! ## Trees -/

theorem separate_fields : Merge.Separate fields := SettingLeaf.separate_metadata

/-- What every change keeps, the operations of files keep. -/
theorem applyFiles_keeps {P : Value → Prop}
    (hP : ∀ {d d' : Value}, P d → Merge.Change fields d d' → P d') {document : Value}
    (h : P document) (files : List FilePath) : P (applyFiles fs document files).1 := by
  induction files generalizing document with
  | nil => exact h
  | cons p rest ih =>
    rw [applyFiles_cons]
    refine ih ?_
    unfold applyFile
    split
    · exact Merge.apply_keeps hP h _ p
    · exact h

theorem typed_applyFiles (fs : FileSystem) (files : List FilePath) :
    Settings.Typed (applyFiles fs Settings.default.toValue files).1 :=
  applyFiles_keeps Settings.Typed.change (Settings.typed_toValue _) files

theorem typed_overDefaults (result loaded defaults : Settings) :
    Settings.Typed
      (Merge.overDefaults result.toValue loaded.toValue defaults.toValue fields) :=
  Merge.overDefaults_keeps Settings.Typed.change (Settings.typed_toValue loaded).conforms _
    (Settings.typed_toValue result)

theorem typed_overlay (settings : Settings) (environment : Environment) :
    Settings.Typed (overlay settings.toValue environment fields) := by
  refine Merge.foldl_leaves_keeps Settings.Typed.change (fun document f hf => ?_)
    (Settings.typed_toValue settings)
  split
  · split
    · next leaf hleaf => exact .leaf hf (.inr ⟨leaf, Leaf.kind_of_parse? hleaf, rfl⟩)
    · exact .none
  · exact .none

/-! ## Stages -/

theorem exists_mergeSettings (result loaded defaults : Settings) :
    ∃ c, mergeSettings result loaded defaults = .ok c :=
  (typed_overDefaults result loaded defaults).decode

@[simp] theorem overlay_nil (document : Value) (fields : List Field) :
    overlay document [] fields = document := by
  unfold overlay
  induction fields.filter fun f => !f.isRecord with
  | nil => rfl
  | cons f rest ih => exact ih

/-- The environment is always taken over, without a problem. -/
theorem applyEnvironment_eq (settings : Settings) (environment : Environment) :
    ∃ c, applyEnvironment settings environment = (c, []) ∧
      Settings.decode (overlay settings.toValue environment fields) = .ok c := by
  unfold applyEnvironment
  split
  · next hempty =>
    rw [List.isEmpty_iff.mp hempty, overlay_nil]
    exact ⟨settings, rfl, Settings.decode_toValue settings⟩
  · obtain ⟨c, hc⟩ := (typed_overlay settings environment).decode
    rw [hc]
    exact ⟨c, rfl, rfl⟩

/-- When all chains can be built, their files and the problems with them are kept. -/
theorem inheritanceLayers_of_chainFiles {files : List FilePath}
    (h : chainFiles fs home (search.existing fs) = .ok files) :
    ∃ c, Settings.decode (applyFiles fs Settings.default.toValue files).1 = .ok c ∧
      inheritanceLayers fs home search =
        ⟨c, files, (applyFiles fs Settings.default.toValue files).2⟩ := by
  obtain ⟨c, hc⟩ := (typed_applyFiles fs files).decode
  refine ⟨c, hc, ?_⟩
  unfold inheritanceLayers
  rw [h]
  dsimp only
  rw [hc]

/-- The candidate is a file that can be read whole. -/
def loadable (fs : FileSystem) (p : FilePath) : Bool :=
  fs.isFile p && (ConfigFile.loadSettings fs p).isOk

/-- What one candidate can do to the layers in legacy mode. -/
inductive LegacyStep (fs : FileSystem) (layers : Layers) (p : FilePath) : Layers → Prop
  | missing (hfile : fs.isFile p = false) : LegacyStep fs layers p layers
  | unreadable {problem : Problem} (hfile : fs.isFile p = true)
    (hload : ConfigFile.loadSettings fs p = .error problem) :
    LegacyStep fs layers p { layers with problems := layers.problems ++ [problem] }
  | merged {loaded c : Settings} (hfile : fs.isFile p = true)
    (hload : ConfigFile.loadSettings fs p = .ok loaded)
    (hmerge : mergeSettings layers.settings loaded Settings.default = .ok c) :
    LegacyStep fs layers p ⟨c, layers.applied ++ [p], layers.problems⟩

theorem legacyStep_of_loaded {layers : Layers} {p : FilePath} {loaded c : Settings}
    (hfile : fs.isFile p = true) (hload : ConfigFile.loadSettings fs p = .ok loaded)
    (hmerge : mergeSettings layers.settings loaded Settings.default = .ok c) :
    legacyStep fs layers p = .ok ⟨c, layers.applied ++ [p], layers.problems⟩ := by
  unfold legacyStep
  rw [if_pos hfile, hload]
  -- by a name for it the merge is kept from being computed when the proof is checked
  obtain ⟨merge, heq⟩ : ∃ merge, merge = mergeSettings layers.settings := ⟨_, rfl⟩
  rw [← heq] at hmerge ⊢
  dsimp only
  rw [hmerge]

theorem legacyStep_eq (fs : FileSystem) (layers : Layers) (p : FilePath) :
    ∃ next, LegacyStep fs layers p next ∧ legacyStep fs layers p = .ok next := by
  cases hfile : fs.isFile p with
  | false =>
    refine ⟨layers, .missing hfile, ?_⟩
    rw [legacyStep, if_neg (Bool.eq_false_iff.mp hfile)]
  | true =>
    cases hload : ConfigFile.loadSettings fs p with
    | error problem =>
      refine ⟨_, .unreadable hfile hload, ?_⟩
      rw [legacyStep, if_pos hfile, hload]
    | ok loaded =>
      obtain ⟨c, hc⟩ := exists_mergeSettings layers.settings loaded Settings.default
      exact ⟨_, .merged hfile hload hc, legacyStep_of_loaded hfile hload hc⟩

theorem legacyLayersFrom_cons (fs : FileSystem) (layers : Layers) (p : FilePath)
    (rest : List FilePath) :
    ∃ next, LegacyStep fs layers p next ∧
      legacyLayersFrom fs layers (p :: rest) = legacyLayersFrom fs next rest := by
  obtain ⟨next, hnext, hstep⟩ := legacyStep_eq fs layers p
  refine ⟨next, hnext, ?_⟩
  rw [legacyLayersFrom, hstep]

/-- Every candidate that can be read whole is applied. -/
theorem applied_legacyLayersFrom (layers : Layers) (candidates : List FilePath) :
    (legacyLayersFrom fs layers candidates).applied =
      layers.applied ++ candidates.filter (loadable fs) := by
  induction candidates generalizing layers with
  | nil => rw [legacyLayersFrom, List.filter_nil, List.append_nil]
  | cons p rest ih =>
    obtain ⟨next, hstep, heq⟩ := legacyLayersFrom_cons fs layers p rest
    rw [heq, ih next, List.filter_cons]
    cases hstep with
    | missing hfile => rw [loadable, hfile]; rfl
    | unreadable hfile hload => rw [loadable, hfile, hload]; rfl
    | merged hfile hload => rw [loadable, hfile, hload, List.append_assoc]; rfl

/-- Candidates read whole report problems of these files alone. -/
theorem ofFile_of_mem_legacyLayersFrom {layers : Layers} {candidates : List FilePath}
    {problem : Problem} (h : problem ∈ (legacyLayersFrom fs layers candidates).problems) :
    problem ∈ layers.problems ∨ ∃ p ∈ candidates, problem.OfFile p := by
  induction candidates generalizing layers with
  | nil => exact .inl h
  | cons p rest ih =>
    obtain ⟨next, hstep, heq⟩ := legacyLayersFrom_cons fs layers p rest
    rw [heq] at h
    rcases ih h with hnext | ⟨q, hq, hproblem⟩
    · cases hstep with
      | missing => exact .inl hnext
      | merged => exact .inl hnext
      | unreadable _ hload =>
        rcases List.mem_append.mp hnext with hold | hnew
        · exact .inl hold
        · obtain ⟨reason, rfl⟩ := ConfigFile.loadSettings_error hload
          rw [List.mem_singleton.mp hnew]
          exact .inr ⟨p, List.mem_cons_self, .undecodable reason⟩
    · exact .inr ⟨q, List.mem_cons_of_mem p hq, hproblem⟩

/-! ## Whole resolutions -/

theorem chainFiles_error {candidates : List FilePath} {problem : Problem}
    (h : chainFiles fs home candidates = .error problem) : problem.isRecoverable = false := by
  refine of_foldlM_eq_error (P := fun failure => failure.isRecoverable = false) ?_ h
  intro files candidate failure hstep
  rcases bind_eq_error.mp hstep with hbuild | ⟨_, -, hdone⟩
  · exact Chain.build_error hbuild
  · cases hdone

/-- A problem of the files is one of a single file, or one of a chain in inheritance mode. -/
theorem ofFile_or_chainFiles {mode : Mode} {problem : Problem}
    (h : problem ∈ (fileLayers fs home search mode).problems) :
    (∃ p, problem.OfFile p) ∨
      mode = .inheritance ∧ chainFiles fs home (search.existing fs) = .error problem := by
  cases mode with
  | inheritance =>
    change problem ∈ (inheritanceLayers fs home search).problems at h
    cases hchain : chainFiles fs home (search.existing fs) with
    | error failure =>
      rw [inheritanceLayers, hchain] at h
      have heq : problem = failure := List.mem_singleton.mp h
      subst heq
      exact .inr ⟨rfl, rfl⟩
    | ok files =>
      obtain ⟨c, -, hlayers⟩ := inheritanceLayers_of_chainFiles hchain
      rw [hlayers] at h
      obtain ⟨p, -, hproblem⟩ := ofFile_of_mem_applyFiles h
      exact .inl ⟨p, hproblem⟩
  | legacy =>
    rcases ofFile_of_mem_legacyLayersFrom h with hnone | ⟨p, -, hproblem⟩
    · cases hnone
    · exact .inl ⟨p, hproblem⟩

/-- A resolution is the layers of the files with the environment over them. -/
theorem load_eq (fs : FileSystem) (home : Option FilePath) (search : SearchPath) (mode : Mode)
    (environment : Environment) :
    ∃ c, Settings.decode (overlay (fileLayers fs home search mode).settings.toValue
        (environment.capture fields) fields) = .ok c ∧
      load fs home search mode environment =
        { search
          mode
          settings := c
          active := (search.existing fs).head?
          applied := (fileLayers fs home search mode).applied
          environment := environment.capture fields
          problems := (fileLayers fs home search mode).problems } := by
  obtain ⟨c, happly, hdecode⟩ := applyEnvironment_eq (fileLayers fs home search mode).settings
    (environment.capture fields)
  refine ⟨c, hdecode, ?_⟩
  unfold load
  dsimp only
  rw [happly, List.append_nil]

/-- Every tree that a resolution decodes can be decoded: the merged tree of the files of all
chains, the tree after each file that is read whole, and the tree with the environment over it.
So the layers of the files are never given up because of a tree, the environment is never
dropped, and no problem says that a tree could not be decoded. -/
theorem every_tree_decodes (fs : FileSystem) (home : Option FilePath) (search : SearchPath)
    (mode : Mode) (environment : Environment) :
    (∀ files, chainFiles fs home (search.existing fs) = .ok files →
      ∃ c, Settings.decode (applyFiles fs Settings.default.toValue files).1 = .ok c ∧
        inheritanceLayers fs home search =
          ⟨c, files, (applyFiles fs Settings.default.toValue files).2⟩) ∧
    (∀ result loaded : Settings, ∃ c, Settings.decode (Merge.overDefaults result.toValue
        loaded.toValue Settings.default.toValue fields) = .ok c) ∧
    (∀ layers p, ∃ next, legacyStep fs layers p = .ok next) ∧
    (legacyLayers fs search).applied = search.reverse.filter (loadable fs) ∧
    Settings.decode (overlay (fileLayers fs home search mode).settings.toValue
        (environment.capture fields) fields) =
      .ok (load fs home search mode environment).settings ∧
    ∀ reason, .unserializable reason ∉ (load fs home search mode environment).problems := by
  obtain ⟨c, hdecode, hload⟩ := load_eq fs home search mode environment
  refine ⟨fun _ hfiles => inheritanceLayers_of_chainFiles hfiles, fun result loaded =>
    exists_mergeSettings result loaded Settings.default, fun layers p => ?_, ?_, ?_, ?_⟩
  · obtain ⟨next, -, hnext⟩ := legacyStep_eq fs layers p
    exact ⟨next, hnext⟩
  · rw [legacyLayers, applied_legacyLayersFrom]
    rfl
  · rw [hdecode, hload]
  · intro reason hmem
    rw [hload] at hmem
    rcases ofFile_or_chainFiles hmem with ⟨p, hproblem⟩ | ⟨-, hchain⟩
    · cases hproblem
    · cases chainFiles_error hchain

end LayeredConfig.Resolution
