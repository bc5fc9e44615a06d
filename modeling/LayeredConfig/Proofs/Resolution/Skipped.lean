import LayeredConfig.Proofs.Resolution.Fallback
import LayeredConfig.Proofs.Resolution.Legacy
import LayeredConfig.Proofs.Resolution.Order

/-
  Files that are skipped. A file whose content cannot be decoded is reported as undecodable and
  leaves the settings as they are. Legacy mode does not count such a file as applied. Inheritance
  mode does: its files are those of the chains, fixed before any of them is decoded, and the
  undecodable ones among them are exactly the applied files that are also reported
  (`applied_and_undecodable_iff`, with an example of such a file in
  `undecodable_file_counts_as_applied`).
-/

namespace LayeredConfig.Resolution

variable {fs : FileSystem} {home : Option FilePath} {search : SearchPath} {p q : FilePath}
  {reason : String}

/-- The operations of the file can be read. -/
def decodable (fs : FileSystem) (p : FilePath) : Bool := (ConfigFile.loadOperations fs p).isOk

/-! ## Skipped files of chains -/

/-- A file reports itself as undecodable, and only when its operations cannot be read. -/
theorem undecodable_mem_applyFile_iff {document : Value} :
    .undecodable q reason ∈ (applyFile fs document p).2 ↔
      p = q ∧ ConfigFile.loadOperations fs q = .error (.undecodable q reason) := by
  unfold applyFile
  cases hload : ConfigFile.loadOperations fs p with
  | ok ops =>
    constructor
    · intro hmem
      cases Merge.ofKey_of_mem_apply hmem
    · rintro ⟨rfl, herror⟩
      cases hload.symm.trans herror
  | error problem =>
    dsimp only
    rw [List.mem_singleton]
    obtain ⟨why, rfl⟩ := ConfigFile.loadOperations_error hload
    constructor
    · intro heq
      cases heq
      exact ⟨rfl, hload⟩
    · rintro ⟨rfl, herror⟩
      exact Except.error.inj (herror.symm.trans hload)

/-- The files that are reported as undecodable are those whose operations cannot be read. -/
theorem undecodable_mem_applyFiles_iff {document : Value} {files : List FilePath} :
    .undecodable q reason ∈ (applyFiles fs document files).2 ↔
      q ∈ files ∧ ConfigFile.loadOperations fs q = .error (.undecodable q reason) := by
  induction files generalizing document with
  | nil => simp [applyFiles]
  | cons p rest ih =>
    rw [applyFiles_cons, List.mem_append, undecodable_mem_applyFile_iff, ih, List.mem_cons]
    constructor
    · rintro (⟨rfl, herror⟩ | ⟨hmem, herror⟩)
      · exact ⟨.inl rfl, herror⟩
      · exact ⟨.inr hmem, herror⟩
    · rintro ⟨rfl | hmem, herror⟩
      · exact .inl ⟨rfl, herror⟩
      · exact .inr ⟨hmem, herror⟩

theorem applyFile_of_not_decodable (h : decodable fs p = false) (document : Value) :
    (applyFile fs document p).1 = document := by
  unfold decodable at h
  unfold applyFile
  cases hload : ConfigFile.loadOperations fs p with
  | ok ops =>
    rw [hload] at h
    cases h
  | error problem => rfl

/-- Files that cannot be decoded leave the document as it is. -/
theorem applyFiles_filter_decodable (fs : FileSystem) (document : Value) (files : List FilePath) :
    (applyFiles fs document (files.filter (decodable fs))).1 =
      (applyFiles fs document files).1 := by
  induction files generalizing document with
  | nil => rfl
  | cons p rest ih =>
    rw [List.filter_cons, applyFiles_cons fs document p rest]
    cases hp : decodable fs p with
    | true => exact ih (applyFile fs document p).1
    | false =>
      rw [applyFile_of_not_decodable hp]
      exact ih document

/-- Files that the candidates have are those of chains that can all be built. -/
theorem exists_chains_of_chainFiles {candidates files : List FilePath}
    (h : chainFiles fs home candidates = .ok files) :
    ∃ chains, candidates.reverse.mapM (Chain.build fs home) = .ok chains ∧
      files = extend [] chains.flatten := by
  rcases chainFiles_cases fs home candidates with ⟨hall, -⟩ | ⟨problem, -, herror⟩
  · obtain ⟨chains, hchains⟩ :=
      exists_mapM_build fun c hc => hall c (List.mem_reverse.mp hc)
    exact ⟨chains, hchains, Except.ok.inj (h.symm.trans (chainFiles_eq hchains))⟩
  · cases h.symm.trans herror

/-- No two files of the chains are spellings of one path. -/
theorem pairwise_of_chainFiles {candidates files : List FilePath}
    (h : chainFiles fs home candidates = .ok files) :
    files.Pairwise fun p q => p.sameAs q = false := by
  obtain ⟨chains, -, rfl⟩ := exists_chains_of_chainFiles h
  exact pairwise_extend List.Pairwise.nil _

/-- Among paths that differ, a path has one spelling. -/
theorem eq_of_sameAs {files : List FilePath} (h : files.Pairwise fun p q => p.sameAs q = false)
    (hp : p ∈ files) (hq : q ∈ files) (hsame : p.sameAs q = true) : p = q := by
  induction files with
  | nil => cases hp
  | cons r rest ih =>
    obtain ⟨hfirst, hrest⟩ := List.pairwise_cons.mp h
    rcases List.mem_cons.mp hp with rfl | hp'
    · rcases List.mem_cons.mp hq with rfl | hq'
      · rfl
      · rw [hfirst q hq'] at hsame
        cases hsame
    · rcases List.mem_cons.mp hq with rfl | hq'
      · rw [Chain.sameAs_comm, hfirst p hp'] at hsame
        cases hsame
      · exact ih hrest hp' hq'

/-! ## Skipped candidates -/

/-- Two spellings of a regular file with the same steps have the same content. -/
theorem exists_content_of_sameAs (h : p.sameAs q = true) (hp : fs.isFile p = true)
    (hq : fs.isFile q = true) :
    ∃ content, fs.find p = .ok (.file content) ∧ fs.find q = .ok (.file content) := by
  obtain ⟨content, hcontent⟩ := FileSystem.validate_eq_ok_iff.mp (FileSystem.isFile_iff.mp hp)
  obtain ⟨content', hcontent'⟩ := FileSystem.validate_eq_ok_iff.mp (FileSystem.isFile_iff.mp hq)
  have hsame := FileSystem.find_unique (Chain.sameAs_iff.mp h) hcontent hcontent'
  cases hsame
  exact ⟨content, hcontent, hcontent'⟩

/-- They can be read whole alike. -/
theorem loadable_eq_of_sameAs (h : p.sameAs q = true) (hp : fs.isFile p = true)
    (hq : fs.isFile q = true) : loadable fs p = loadable fs q := by
  obtain ⟨content, hcontent, hcontent'⟩ := exists_content_of_sameAs h hp hq
  have hisOk : ∀ r, fs.find r = .ok (.file content) →
      (ConfigFile.loadSettings fs r).isOk =
        ((String.fromUTF8? content).any fun text => (Settings.parse text).isOk) := by
    intro r hr
    unfold ConfigFile.loadSettings
    rw [FileSystem.isOk_readText_bind hr]
    congr 1
    funext text
    cases Settings.parse text <;> rfl
  rw [loadable, loadable, hp, hq, hisOk p hcontent, hisOk q hcontent']

/-- In legacy mode no applied file is reported as undecodable, under whatever spelling. -/
theorem not_undecodable_of_mem_legacyLayers (hp : p ∈ (legacyLayers fs search).applied)
    (hmem : .undecodable q reason ∈ (legacyLayers fs search).problems) :
    p.sameAs q = false := by
  obtain ⟨reasonOf, hreason⟩ := exists_reason fs
  rw [legacyLayers, applied_legacyLayersFrom, List.nil_append, List.mem_filter] at hp
  rw [legacyLayers, problems_legacyLayersFrom hreason, List.nil_append, List.mem_map] at hmem
  obtain ⟨r, hr, heq⟩ := hmem
  cases heq
  have hq := (List.mem_filter.mp hr).2
  rw [Bool.and_eq_true, Bool.not_eq_true'] at hq
  have hfile : fs.isFile p = true := by
    have hloadable := hp.2
    rw [loadable, Bool.and_eq_true] at hloadable
    exact hloadable.1
  rw [Bool.eq_false_iff]
  intro hsame
  rw [← loadable_eq_of_sameAs hsame hfile hq.1, hp.2] at hq
  cases hq.2

/-! ## Whole resolutions -/

/-- The files of the chains count as applied, and their problems are reported. -/
theorem load_of_chainFiles {files : List FilePath}
    (h : chainFiles fs home (search.existing fs) = .ok files) (environment : Environment) :
    (load fs home search .inheritance environment).applied = files ∧
      (load fs home search .inheritance environment).problems =
        (applyFiles fs Settings.default.toValue files).2 := by
  obtain ⟨c, -, hlayers⟩ := inheritanceLayers_of_chainFiles h
  obtain ⟨settings, -, hload⟩ := load_eq fs home search .inheritance environment
  rw [hload, fileLayers, hlayers]
  exact ⟨rfl, rfl⟩

/-- An applied file is one that is reported as undecodable, in whatever spelling, exactly when the
mode is inheritance and the operations of the file cannot be read. So in legacy mode, and wherever
all files of the chains can be read, only files that were applied are listed as applied. The
others that inheritance mode lists are skipped: the settings before the environment are those that
the decodable files make of the defaults. -/
theorem applied_and_undecodable_iff (fs : FileSystem) (home : Option FilePath)
    (search : SearchPath) (mode : Mode) (environment : Environment) :
    ∃ run, load fs home search mode environment = run ∧
      (∀ p ∈ run.applied,
        (∃ q reason, .undecodable q reason ∈ run.problems ∧ p.sameAs q = true) ↔
          mode = .inheritance ∧ ∃ problem, ConfigFile.loadOperations fs p = .error problem) ∧
      (mode = .inheritance →
        Settings.decode
            (applyFiles fs Settings.default.toValue (run.applied.filter (decodable fs))).1 =
          .ok (fileLayers fs home search mode).settings) := by
  cases mode with
  | legacy =>
    obtain ⟨settings, -, hload⟩ := load_eq fs home search .legacy environment
    refine ⟨_, hload, fun p hp => ⟨?_, ?_⟩, fun hmode => ?_⟩
    · rintro ⟨q, reason, hmem, hsame⟩
      have hdiffer := not_undecodable_of_mem_legacyLayers hp hmem
      rw [hsame] at hdiffer
      cases hdiffer
    · rintro ⟨hmode, -⟩
      cases hmode
    · cases hmode
  | inheritance =>
    obtain ⟨settings, -, hload⟩ := load_eq fs home search .inheritance environment
    cases hchain : chainFiles fs home (search.existing fs) with
    | error problem =>
      have hlayers : fileLayers fs home search .inheritance = fallback [] problem := by
        rw [fileLayers, inheritanceLayers, hchain]
      rw [hlayers] at hload ⊢
      refine ⟨_, hload, fun p hp => ?_, fun _ => ?_⟩
      · cases hp
      · dsimp only [fallback, List.filter_nil, applyFiles]
        exact Settings.decode_toValue Settings.default
    | ok files =>
      obtain ⟨c, hdecode, hlayers⟩ := inheritanceLayers_of_chainFiles hchain
      obtain ⟨happlied, hproblems⟩ := load_of_chainFiles hchain environment
      refine ⟨_, rfl, ?_⟩
      rw [happlied, hproblems, fileLayers, hlayers]
      refine ⟨fun p hp => ⟨?_, ?_⟩, fun _ => ?_⟩
      · rintro ⟨q, reason, hmem, hsame⟩
        obtain ⟨hq, herror⟩ := undecodable_mem_applyFiles_iff.mp hmem
        rw [eq_of_sameAs (pairwise_of_chainFiles hchain) hp hq hsame]
        exact ⟨rfl, _, herror⟩
      · rintro ⟨-, problem, herror⟩
        obtain ⟨reason, rfl⟩ := ConfigFile.loadOperations_error herror
        exact ⟨p, reason, undecodable_mem_applyFiles_iff.mpr ⟨hp, herror⟩, Chain.sameAs_refl p⟩
      · rw [applyFiles_filter_decodable]
        exact hdecode

/-- A file that holds no mapping, and a file of lower priority. -/
def listCandidate : FileSystem :=
  ⟨[(["r", "bad.yml"], .file "- just\n- a list\n".toUTF8),
    (["r", "good.yml"], .file "max_backups: 5\n".toUTF8)], []⟩

/-- The file without a mapping is listed as applied and reported as undecodable. -/
theorem undecodable_file_counts_as_applied :
    ∃ run, load listCandidate none [⟨"/r/bad.yml"⟩, ⟨"/r/good.yml"⟩] .inheritance [] = run ∧
      run.applied = [⟨"/r/good.yml"⟩, ⟨"/r/bad.yml"⟩] ∧
      .undecodable ⟨"/r/bad.yml"⟩ ConfigFile.notMappingReason ∈ run.problems := by
  have hchain : (chainFiles listCandidate none (SearchPath.existing listCandidate
      [⟨"/r/bad.yml"⟩, ⟨"/r/good.yml"⟩])).toOption =
        some [⟨"/r/good.yml"⟩, ⟨"/r/bad.yml"⟩] := by decide +kernel
  have hproblems : (applyFile listCandidate .null ⟨"/r/bad.yml"⟩).2 =
      [.undecodable ⟨"/r/bad.yml"⟩ ConfigFile.notMappingReason] := by decide +kernel
  have hmem : .undecodable ⟨"/r/bad.yml"⟩ ConfigFile.notMappingReason ∈
      (applyFile listCandidate .null ⟨"/r/bad.yml"⟩).2 := by
    rw [hproblems]
    exact List.mem_singleton_self _
  obtain ⟨-, herror⟩ := undecodable_mem_applyFile_iff.mp hmem
  obtain ⟨happlied, hreported⟩ := load_of_chainFiles (toOption_eq_some_iff.mp hchain) []
  refine ⟨_, rfl, happlied, ?_⟩
  rw [hreported]
  exact undecodable_mem_applyFiles_iff.mpr ⟨by decide, herror⟩

end LayeredConfig.Resolution
