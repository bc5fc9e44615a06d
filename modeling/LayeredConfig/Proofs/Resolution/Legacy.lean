import LayeredConfig.Proofs.Resolution.Environment

/-
  Legacy mode takes every leaf from one file: the candidate of highest priority that can be read
  whole, has the leaf, and gives it another value than the default. One candidate overrides the
  leaves it gives and keeps the record (`settings_of_legacyStep`), so of all candidates the last
  one that gives a leaf decides (`settings_legacyLayersFrom`). The other files have no say
  (`legacyLayersFrom_congr`). `legacy_takes_highest` says so of whole resolutions.
-/

namespace LayeredConfig.Resolution

variable {fs fs' : FileSystem} {layers next : Layers} {p : FilePath} {f : Field}
  {result loaded c : Settings}

/-! ## One candidate -/

/-- The node that a candidate gives a leaf, if it can be read whole: the one it has, unless the
value there is the default. -/
def given? (fs : FileSystem) (f : Field) (p : FilePath) : Option Value :=
  if fs.isFile p then
    match ConfigFile.loadSettings fs p with
    | .ok loaded => Merge.copied? loaded.toValue Settings.default.toValue f
    | .error _ => none
  else none

/-- Settings that have the record have every leaf. -/
theorem get?_toValue_ne_none (hrecord : c .verification ≠ none) (hf : f ∈ fields) :
    c.toValue.get? f.path ≠ none :=
  fun h => hrecord ((Settings.get?_toValue_eq_none_iff hf).mp h).2

/-- Merged settings have the leaves that were copied and otherwise those they had. -/
theorem mergeSettings_spec (h : mergeSettings result loaded Settings.default = .ok c)
    (hrecord : result .verification ≠ none) :
    c .verification ≠ none ∧ ∀ f ∈ fields, c.toValue.get? f.path =
      (Merge.copied? loaded.toValue Settings.default.toValue f).or
        (result.toValue.get? f.path) := by
  have hpresent : ∀ f ∈ fields,
      (Merge.copied? loaded.toValue Settings.default.toValue f).or
        (result.toValue.get? f.path) ≠ none := fun f hf hnone =>
    get?_toValue_ne_none hrecord hf (Option.or_eq_none_iff.mp hnone).2
  have hget : ∀ f ∈ fields, c.toValue.get? f.path =
      (Merge.copied? loaded.toValue Settings.default.toValue f).or
        (result.toValue.get? f.path) := by
    intro f hf
    have hnode := Merge.get?_overDefaults separate_fields hf result.toValue loaded.toValue
      Settings.default.toValue
    rw [((typed_overDefaults result loaded Settings.default).get?_toValue h hf).2, hnode]
    rintro ⟨hmissing, -⟩
    exact hpresent f hf (hnode.symm.trans hmissing)
  refine ⟨fun hnone => ?_, hget⟩
  have hf := (SettingLeaf.part .verify).field_mem
  refine hpresent _ hf ((hget _ hf).symm.trans ?_)
  exact (Settings.get?_toValue_eq_none_iff hf).mpr ⟨⟨.verify, rfl⟩, hnone⟩

/-- A candidate overrides the leaves it gives and no others, and the record stays. -/
theorem settings_of_legacyStep (h : LegacyStep fs layers p next)
    (hrecord : layers.settings .verification ≠ none) :
    next.settings .verification ≠ none ∧ ∀ f ∈ fields, next.settings.toValue.get? f.path =
      (given? fs f p).or (layers.settings.toValue.get? f.path) := by
  cases h with
  | missing hfile =>
    refine ⟨hrecord, fun f _ => ?_⟩
    rw [given?, if_neg (Bool.eq_false_iff.mp hfile), Option.none_or]
  | unreadable hfile hload =>
    refine ⟨hrecord, fun f _ => ?_⟩
    rw [given?, if_pos hfile, hload]
    rfl
  | merged hfile hload hmerge =>
    obtain ⟨hstays, hget⟩ := mergeSettings_spec hmerge hrecord
    refine ⟨hstays, fun f hf => ?_⟩
    rw [given?, if_pos hfile, hload]
    exact hget f hf

/-! ## All candidates -/

/-- Of the candidates that give a leaf the last one decides, and the record stays. -/
theorem settings_legacyLayersFrom (fs : FileSystem) (layers : Layers)
    (hrecord : layers.settings .verification ≠ none) (candidates : List FilePath) :
    (legacyLayersFrom fs layers candidates).settings .verification ≠ none ∧
      ∀ f ∈ fields, (legacyLayersFrom fs layers candidates).settings.toValue.get? f.path =
        (candidates.reverse.findSome? (given? fs f)).or
          (layers.settings.toValue.get? f.path) := by
  induction candidates generalizing layers with
  | nil => exact ⟨hrecord, fun f _ => rfl⟩
  | cons p rest ih =>
    obtain ⟨next, hstep, heq⟩ := legacyLayersFrom_cons fs layers p rest
    obtain ⟨hstays, hnext⟩ := settings_of_legacyStep hstep hrecord
    obtain ⟨hlast, hrest⟩ := ih next hstays
    rw [heq]
    refine ⟨hlast, fun f hf => ?_⟩
    rw [hrest f hf, hnext f hf, List.reverse_cons, List.findSome?_append,
      List.findSome?_singleton, Option.or_assoc]

/-- Every candidate that exists and cannot be read whole is reported. -/
theorem problems_legacyLayersFrom {reason : FilePath → String}
    (hreason : ∀ p problem, ConfigFile.loadSettings fs p = .error problem →
      problem = .undecodable p (reason p))
    (layers : Layers) (candidates : List FilePath) :
    (legacyLayersFrom fs layers candidates).problems = layers.problems ++
      (candidates.filter fun p => fs.isFile p && !loadable fs p).map
        fun p => .undecodable p (reason p) := by
  induction candidates generalizing layers with
  | nil => exact (List.append_nil _).symm
  | cons p rest ih =>
    obtain ⟨next, hstep, heq⟩ := legacyLayersFrom_cons fs layers p rest
    rw [heq, ih next, List.filter_cons]
    cases hstep with
    | missing hfile => rw [hfile]; rfl
    | unreadable hfile hload =>
      rw [loadable, hfile, hload, hreason p _ hload, List.append_assoc]
      rfl
    | merged hfile hload => rw [loadable, hfile, hload]; rfl

/-- The reasons why files cannot be read whole. -/
theorem exists_reason (fs : FileSystem) :
    ∃ reason : FilePath → String, ∀ p problem, ConfigFile.loadSettings fs p = .error problem →
      problem = .undecodable p (reason p) := by
  have hreason : ∀ p, ∃ reason, ∀ problem, ConfigFile.loadSettings fs p = .error problem →
      problem = .undecodable p reason := by
    intro p
    cases hload : ConfigFile.loadSettings fs p with
    | ok loaded =>
      refine ⟨"", fun problem h => ?_⟩
      cases h
    | error failure =>
      obtain ⟨reason, rfl⟩ := ConfigFile.loadSettings_error hload
      exact ⟨reason, fun problem h => (Except.error.inj h).symm⟩
  exact ⟨fun p => (hreason p).choose, fun p => (hreason p).choose_spec⟩

/-! ## Other files -/

theorem isFile_congr (h : fs'.find p = fs.find p) : fs'.isFile p = fs.isFile p := by
  rw [FileSystem.isFile, FileSystem.isFile, FileSystem.validate, FileSystem.validate, h]

theorem loadSettings_congr (h : fs'.find p = fs.find p) :
    ConfigFile.loadSettings fs' p = ConfigFile.loadSettings fs p := by
  rw [ConfigFile.loadSettings, ConfigFile.loadSettings, FileSystem.readText,
    FileSystem.readText, FileSystem.read, FileSystem.read, h]

/-- What does not stand at a candidate has no say. -/
theorem legacyLayersFrom_congr {candidates : List FilePath}
    (h : ∀ p ∈ candidates, fs'.find p = fs.find p) (layers : Layers) :
    legacyLayersFrom fs' layers candidates = legacyLayersFrom fs layers candidates := by
  induction candidates generalizing layers with
  | nil => rfl
  | cons p rest ih =>
    have hp := h p List.mem_cons_self
    have hstep : legacyStep fs' layers p = legacyStep fs layers p := by
      rw [legacyStep, legacyStep, isFile_congr hp, loadSettings_congr hp]
    rw [legacyLayersFrom, legacyLayersFrom, hstep]
    split
    · exact ih (fun q hq => h q (List.mem_cons_of_mem p hq)) _
    · rfl

/-! ## Whole resolutions -/

/-- Without overrides, legacy mode gives every leaf the node of the candidate of highest priority
that can be read whole, has the leaf and differs there from the default, and otherwise the
default. The record is there. The files applied are the candidates that can be read whole, lowest
priority first, and the problems are those of the other candidates that exist. Nothing but the
candidates is read. -/
theorem legacy_takes_highest (fs : FileSystem) (home : Option FilePath) (search : SearchPath)
    (environment : Environment) (hnone : ∀ f ∈ fields, environment.override? f = none) :
    ∃ run, load fs home search .legacy environment = run ∧
      (∀ f ∈ fields, run.settings.toValue.get? f.path =
        (search.findSome? (given? fs f)).or (Settings.default.toValue.get? f.path)) ∧
      run.settings .verification ≠ none ∧
      run.applied = search.reverse.filter (loadable fs) ∧
      (∃ reason : FilePath → String,
        (∀ p, fs.isFile p = true → loadable fs p = false →
          ConfigFile.loadSettings fs p = .error (.undecodable p (reason p))) ∧
        run.problems = (search.reverse.filter fun p => fs.isFile p && !loadable fs p).map
          fun p => .undecodable p (reason p)) ∧
      ∀ fs' home', (∀ p ∈ search, fs'.find p = fs.find p) →
        load fs' home' search .legacy environment = run := by
  have hload := load_of_no_override hnone fs home search .legacy
  have hdefault : Settings.default .verification ≠ none := Option.some_ne_none _
  obtain ⟨hrecord, hget⟩ :=
    settings_legacyLayersFrom fs ⟨Settings.default, [], []⟩ hdefault search.reverse
  obtain ⟨reason, hreason⟩ := exists_reason fs
  refine ⟨_, rfl, fun f hf => ?_, ?_, ?_, ⟨reason, fun p hfile hloadable => ?_, ?_⟩,
    fun fs' home' hsame => ?_⟩
  · have hf' := hget f hf
    rw [List.reverse_reverse] at hf'
    rw [hload]
    exact hf'
  · rw [hload]
    exact hrecord
  · rw [hload]
    exact applied_legacyLayersFrom _ _
  · rw [loadable, hfile, Bool.true_and] at hloadable
    cases hp : ConfigFile.loadSettings fs p with
    | ok loaded =>
      rw [hp] at hloadable
      cases hloadable
    | error problem => rw [hreason p problem hp]
  · rw [hload]
    exact problems_legacyLayersFrom hreason _ _
  · have hlayers : fileLayers fs' home' search .legacy = fileLayers fs home search .legacy :=
      legacyLayersFrom_congr (fun p hp => hsame p (List.mem_reverse.mp hp)) _
    have hexisting : search.existing fs' = search.existing fs :=
      List.filter_congr fun p hp => isFile_congr (hsame p hp)
    rw [load_of_no_override hnone fs' home' search .legacy, hload, hlayers, hexisting]

/-- Two files that set one leaf, the first of them to its default, and a file that cannot be
decoded. -/
def rivals : FileSystem :=
  ⟨[(["r", "a.yml"], .file "max_archives: 0\n".toUTF8),
    (["r", "b.yml"], .file "max_archives: 5\n".toUTF8),
    (["r", "c.yml"], .file "max_archives: many\n".toUTF8)], []⟩

/-- The first file does not win the default back from the second. The variable that is set is that
of no field. -/
theorem legacy_takes_highest_rivals :
    (∀ f ∈ fields, Environment.override? [("HOME", "/r")] f = none) ∧
    ∃ run, load rivals none [⟨"/r/a.yml"⟩, ⟨"/r/b.yml"⟩, ⟨"/r/c.yml"⟩] .legacy
        [("HOME", "/r")] = run ∧
      run.settings.toValue.get? "max_archives" = some (.int 5) ∧
      run.applied = [⟨"/r/b.yml"⟩, ⟨"/r/a.yml"⟩] := by
  have hnone : ∀ f ∈ fields, Environment.override? [("HOME", "/r")] f = none := by
    intro f _
    have hname : Environment.variableOf f.path ≠ "HOME" := by
      intro h
      have hstart := congrArg (fun s => s.toList.head?) h
      rw [Environment.variableOf] at hstart
      rw [String.toList_append] at hstart
      cases hstart
    rw [Environment.override?, List.lookup_cons, beq_eq_false_iff_ne.mpr hname]
    rfl
  obtain ⟨run, hrun, hget, -, happlied, -⟩ := legacy_takes_highest rivals none
    [⟨"/r/a.yml"⟩, ⟨"/r/b.yml"⟩, ⟨"/r/c.yml"⟩] [("HOME", "/r")] hnone
  refine ⟨hnone, run, hrun, ?_, ?_⟩
  · refine (hget _ (SettingLeaf.own .maxArchives (by decide)).field_mem).trans ?_
    decide +kernel
  · rw [happlied]
    decide +kernel

end LayeredConfig.Resolution
