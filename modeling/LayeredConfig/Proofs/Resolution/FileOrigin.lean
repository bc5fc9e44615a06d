import LayeredConfig.Proofs.Resolution.Origin

/-
  The file that a value is attributed to. When all leaves are attributed at once, those that differ
  from their defaults go to the first candidate that exists, and that is settled before any file is
  read. `file_origin_applied_iff` says when the candidate was applied and not skipped: when its
  content can be decoded and no chain fails. `skipped_candidate_is_origin` is one that was skipped.
-/

namespace LayeredConfig.Resolution

open Chain (Listed)

variable {fs : FileSystem} {home : Option FilePath} {search : SearchPath}
  {environment : Environment} {r : Resolution} {f : Field} {p : FilePath}

/-! ## Files that are read -/

/-- The file is reported as one that cannot be decoded, in whatever spelling. -/
def Skips (r : Resolution) (p : FilePath) : Prop :=
  ∃ q reason, .undecodable q reason ∈ r.problems ∧ p.sameAs q = true

/-- Nothing keeps the mode from the files: in inheritance mode every candidate that exists has its
chain. -/
def ReadsFiles (fs : FileSystem) (home : Option FilePath) (search : SearchPath) : Mode → Prop
  | .inheritance => ∀ c ∈ search.existing fs, ∃ chain, Chain.build fs home c = .ok chain
  | .legacy => True

/-- The file can be decoded in the way of the mode. -/
def decodes (fs : FileSystem) (p : FilePath) : Mode → Bool
  | .inheritance => decodable fs p
  | .legacy => loadable fs p

theorem isOk_operationsOf (p q : FilePath) (datum : Yaml.Datum) :
    (ConfigFile.operationsOf p datum).isOk = (ConfigFile.operationsOf q datum).isOk := by
  cases datum with
  | mapping entries =>
    unfold ConfigFile.operationsOf
    dsimp only
    cases Operation.collect entries <;> rfl
  | _ => rfl

/-- Two spellings of a regular file with the same steps can be decoded alike. -/
theorem decodable_eq_of_sameAs (h : p.sameAs q = true) (hp : fs.isFile p = true)
    (hq : fs.isFile q = true) : decodable fs p = decodable fs q := by
  obtain ⟨content, hcontent, hcontent'⟩ := exists_content_of_sameAs h hp hq
  have hisOk : ∀ r, fs.find r = .ok (.file content) → decodable fs r =
      ((String.fromUTF8? content).any fun text =>
        (Yaml.Datum.parse text).toOption.any fun datum =>
          (ConfigFile.operationsOf p datum).isOk) := by
    intro r hr
    unfold decodable ConfigFile.loadOperations
    rw [FileSystem.isOk_readText_bind hr]
    congr 1
    funext text
    cases Yaml.Datum.parse text with
    | error fault => rfl
    | ok datum => exact isOk_operationsOf r p datum
  rw [hisOk p hcontent, hisOk q hcontent']

/-- The files of the chains are regular files, and every candidate is among them. -/
theorem isFile_of_chainFiles {candidates files : List FilePath}
    (h : chainFiles fs home candidates = .ok files) (hp : p ∈ files) : fs.isFile p = true := by
  obtain ⟨chains, hchains, rfl⟩ := exists_chains_of_chainFiles h
  have hflat : p ∈ chains.flatten := (mem_extend hp).resolve_left List.not_mem_nil
  obtain ⟨chain, hchain, hmem⟩ := List.mem_flatten.mp hflat
  obtain ⟨c, -, hbuild⟩ := build_of_mem_mapM hchains chain hchain
  exact Chain.isFile_of_mem_build hbuild p hmem

theorem listed_of_chainFiles {candidates files : List FilePath}
    (h : chainFiles fs home candidates = .ok files) (hp : p ∈ candidates) :
    Listed files p.normalize := by
  obtain ⟨chains, hchains, rfl⟩ := exists_chains_of_chainFiles h
  obtain ⟨chain, hchain, hbuild⟩ := exists_chain_of_mem hchains (List.mem_reverse.mpr hp)
  have hlast : p.normalize ∈ chain := List.mem_of_getLast? (Chain.getLast?_of_build hbuild)
  exact listed_extend [] (List.mem_flatten.mpr ⟨chain, hchain, hlast⟩)

/-- A file that is listed in some spelling is reported when its operations cannot be read. -/
theorem undecodable_iff_of_listed {candidates files : List FilePath} {document : Value}
    (h : chainFiles fs home candidates = .ok files) (hlisted : Listed files p)
    (hfile : fs.isFile p = true) :
    (∃ q reason, .undecodable q reason ∈ (applyFiles fs document files).2 ∧
      p.sameAs q = true) ↔ decodable fs p = false := by
  have hsame : ∀ q ∈ files, p.sameAs q = true → decodable fs p = decodable fs q :=
    fun q hq hspelled => decodable_eq_of_sameAs hspelled hfile (isFile_of_chainFiles h hq)
  constructor
  · rintro ⟨q, reason, hreported, hspelled⟩
    obtain ⟨hq, herror⟩ := undecodable_mem_applyFiles_iff.mp hreported
    rw [hsame q hq hspelled, decodable, herror]
    rfl
  · intro hnot
    obtain ⟨q, hq, hspelled⟩ := hlisted
    rw [hsame q hq hspelled] at hnot
    cases hload : ConfigFile.loadOperations fs q with
    | ok ops =>
      rw [decodable, hload] at hnot
      cases hnot
    | error problem =>
      obtain ⟨reason, rfl⟩ := ConfigFile.loadOperations_error hload
      exact ⟨q, reason, undecodable_mem_applyFiles_iff.mpr ⟨hq, hload⟩, hspelled⟩

/-! ## Candidates that are applied -/

theorem active_load (fs : FileSystem) (home : Option FilePath) (search : SearchPath) (mode : Mode)
    (environment : Environment) :
    (load fs home search mode environment).active = (search.existing fs).head? := by
  obtain ⟨c, -, hload⟩ := load_eq fs home search mode environment
  rw [hload]

theorem applied_load_legacy (fs : FileSystem) (home : Option FilePath) (search : SearchPath)
    (environment : Environment) :
    (load fs home search .legacy environment).applied = search.reverse.filter (loadable fs) := by
  obtain ⟨c, -, hload⟩ := load_eq fs home search .legacy environment
  rw [hload]
  exact applied_legacyLayersFrom _ _

/-- In legacy mode a candidate that exists and cannot be read whole is skipped. -/
theorem skips_load_legacy (hp : p ∈ search) (hfile : fs.isFile p = true)
    (h : loadable fs p = false) (home : Option FilePath) (environment : Environment) :
    (load fs home search .legacy environment).Skips p := by
  obtain ⟨c, -, hload⟩ := load_eq fs home search .legacy environment
  obtain ⟨reason, hreason⟩ := exists_reason fs
  have hmem : p ∈ search.reverse.filter fun p => fs.isFile p && !loadable fs p := by
    rw [List.mem_filter, List.mem_reverse, hfile, h]
    exact ⟨hp, rfl⟩
  have hreported : .undecodable p (reason p) ∈ (legacyLayers fs search).problems := by
    rw [legacyLayers, problems_legacyLayersFrom hreason]
    exact List.mem_append_right _ (List.mem_map_of_mem hmem)
  rw [hload]
  exact ⟨p, reason p, hreported, Chain.sameAs_refl p⟩

/-- In legacy mode a candidate is applied and not skipped when it can be read whole. -/
theorem applied_iff_of_legacy (hp : p ∈ search) (hfile : fs.isFile p = true)
    (home : Option FilePath) (environment : Environment) :
    Listed (load fs home search .legacy environment).applied p ∧
        ¬ (load fs home search .legacy environment).Skips p ↔ loadable fs p = true := by
  constructor
  · rintro ⟨-, hnot⟩
    cases hloadable : loadable fs p with
    | true => rfl
    | false => exact absurd (skips_load_legacy hp hfile hloadable home environment) hnot
  · intro hloadable
    have hmem : p ∈ search.reverse.filter (loadable fs) :=
      List.mem_filter.mpr ⟨List.mem_reverse.mpr hp, hloadable⟩
    rw [applied_load_legacy]
    refine ⟨Chain.listed_of_mem hmem, ?_⟩
    rintro ⟨q, reason, hreported, hsame⟩
    obtain ⟨c, -, hload⟩ := load_eq fs home search .legacy environment
    have happlied : p ∈ (legacyLayers fs search).applied := by
      rw [legacyLayers, applied_legacyLayersFrom]
      exact hmem
    rw [hload] at hreported
    rw [not_undecodable_of_mem_legacyLayers happlied hreported] at hsame
    cases hsame

/-- In inheritance mode a candidate is applied and not skipped when no chain fails and its
operations can be read. -/
theorem applied_iff_of_inheritance (hp : p ∈ search.existing fs) (hnormal : p.normalize = p)
    (home : Option FilePath) (environment : Environment) :
    Listed (load fs home search .inheritance environment).applied p ∧
        ¬ (load fs home search .inheritance environment).Skips p ↔
      ReadsFiles fs home search .inheritance ∧ decodable fs p = true := by
  rcases chainFiles_cases fs home (search.existing fs) with ⟨hall, files, hfiles⟩ |
    ⟨problem, hfails, hchain⟩
  · have hlisted : Listed files p := hnormal ▸ listed_of_chainFiles hfiles hp
    rw [Skips, (load_of_chainFiles hfiles environment).1, (load_of_chainFiles hfiles environment).2,
      undecodable_iff_of_listed hfiles hlisted (List.mem_filter.mp hp).2, Bool.not_eq_false]
    exact and_congr (iff_of_true hlisted hall) Iff.rfl
  · -- one chain fails, so the defaults are used and no file is applied
    have hfell : FellBack fs home search environment problem :=
      fellBack_of_failsFirst hfails hchain
    obtain ⟨-, settings, -, hload⟩ := hfell
    rw [hload]
    constructor
    · rintro ⟨⟨q, hq, -⟩, -⟩
      cases hq
    · rintro ⟨hall, -⟩
      obtain ⟨c, hc, herror⟩ := hfails.exists_mem
      obtain ⟨chain, hbuild⟩ := hall c (List.mem_reverse.mp hc)
      cases herror.symm.trans hbuild

/-- The file that a leaf is attributed to, when all are attributed at once, is the first candidate
that exists, and the leaf differs from its default. Over a search path in normal form that file was
applied and not skipped exactly when it can be decoded and, in inheritance mode, every candidate
that exists has its chain. -/
theorem file_origin_applied_iff (fs : FileSystem) (home : Option FilePath) (search : SearchPath)
    (mode : Mode) (environment : Environment) (hnormal : ∀ p ∈ search, p.normalize = p) :
    ∃ run, load fs home search mode environment = run ∧
      ∀ a ∈ run.origins, ∀ p, a.origin = .file p →
        (∃ f ∈ fields, a.name = f.path ∧ run.Changed f) ∧
        (search.existing fs).head? = some p ∧
        (Listed run.applied p ∧ ¬ run.Skips p ↔
          ReadsFiles fs home search mode ∧ decodes fs p mode = true) := by
  refine ⟨_, rfl, fun a ha p hp => ?_⟩
  obtain ⟨f, hf, rfl⟩ := mem_origins_iff.mp ha
  obtain ⟨hchanged, hactive⟩ := (origin_ofLeaf_eq_file_iff hf).mp hp
  rw [active_load] at hactive
  have hmem : p ∈ search.existing fs := List.mem_of_head? hactive
  obtain ⟨hsearch, hfile⟩ := List.mem_filter.mp hmem
  refine ⟨⟨f, hf, rfl, hchanged⟩, hactive, ?_⟩
  cases mode with
  | inheritance => exact applied_iff_of_inheritance hmem (hnormal p hsearch) home environment
  | legacy =>
    rw [applied_iff_of_legacy hsearch hfile]
    exact (and_iff_right trivial).symm

/-- A leaf that differs from its default is attributed to the first candidate that exists. -/
theorem exists_file_origin (hf : f ∈ fields) (hchanged : r.Changed f)
    (hactive : r.active = some p) : ∃ a ∈ r.origins, a.name = f.path ∧ a.origin = .file p :=
  ⟨_, mem_origins_iff.mpr ⟨f, hf, rfl⟩, rfl, (origin_ofLeaf_eq_file_iff hf).mpr ⟨hchanged, hactive⟩⟩

theorem file_origin_applied_iff_number :
    (∀ p ∈ ([⟨"/r/c.yml"⟩] : SearchPath), p.normalize = p) ∧
    ∃ run, load numberCandidate none [⟨"/r/c.yml"⟩] .inheritance [] = run ∧
      ∃ a ∈ run.origins, a.name = "max_backups" ∧ a.origin = .file ⟨"/r/c.yml"⟩ ∧
        Listed run.applied ⟨"/r/c.yml"⟩ ∧ ¬ run.Skips ⟨"/r/c.yml"⟩ := by
  have hnormal : ∀ p ∈ ([⟨"/r/c.yml"⟩] : SearchPath), p.normalize = p := by decide +kernel
  obtain ⟨run, hrun, horigins⟩ := file_origin_applied_iff numberCandidate none [⟨"/r/c.yml"⟩]
    .inheritance [] hnormal
  have hexisting : SearchPath.existing numberCandidate [⟨"/r/c.yml"⟩] = [⟨"/r/c.yml"⟩] := by
    decide +kernel
  have hreads : ReadsFiles numberCandidate none [⟨"/r/c.yml"⟩] .inheritance := by
    have hbuild : (Chain.build numberCandidate none ⟨"/r/c.yml"⟩).isOk = true := by decide +kernel
    intro c hc
    rw [hexisting, List.mem_singleton] at hc
    rw [hc]
    exact isOk_iff.mp hbuild
  have hdecodes : decodes numberCandidate ⟨"/r/c.yml"⟩ .inheritance = true := by decide +kernel
  have hchanged : run.Changed numberLeaf := by
    rw [← hrun]
    exact changed_numberLeaf (by decide) (load_numberCandidate (Environment.override?_nil _))
  have hactive : run.active = some ⟨"/r/c.yml"⟩ := by
    rw [← hrun, active_load, hexisting]
    rfl
  obtain ⟨a, ha, hname, horigin⟩ := exists_file_origin numberLeaf_mem hchanged hactive
  obtain ⟨-, -, happlied⟩ := horigins a ha _ horigin
  exact ⟨hnormal, run, hrun, a, ha, hname, horigin, happlied.mpr ⟨hreads, hdecodes⟩⟩

theorem given?_of_not_loadable (h : loadable fs p = false) (f : Field) : given? fs f p = none := by
  unfold loadable at h
  unfold given?
  cases hfile : fs.isFile p with
  | false => rfl
  | true =>
    cases hload : ConfigFile.loadSettings fs p with
    | error problem => rfl
    | ok loaded =>
      rw [hfile, hload] at h
      cases h

theorem given?_of_loadSettings (hf : f ∈ fields) (hfile : fs.isFile p = true) {loaded : Settings}
    (hload : ConfigFile.loadSettings fs p = .ok loaded) {leaf : Leaf} (hkind : leaf.kind = f.kind)
    (hnode : loaded.toValue.get? f.path = some leaf.toValue)
    (hne : (f.refresh Settings.default.toValue).value ≠ some leaf) :
    given? fs f p = some leaf.toValue := by
  have hvalue : f.valueIn loaded.toValue = some leaf := by
    rw [← value_refresh hf]
    exact value_refresh_of_get? hf hkind hnode
  have hcopied : f.valueIn loaded.toValue ≠ f.valueIn Settings.default.toValue := by
    rw [hvalue, ← value_refresh hf]
    exact hne.symm
  rw [given?, if_pos hfile, hload]
  dsimp only
  rw [Merge.copied?, if_neg hcopied, hnode]

/-- In legacy mode without overrides a leaf has the value that the candidates give it. -/
theorem value_load_legacy (hf : f ∈ fields) {leaf : Leaf} (hkind : leaf.kind = f.kind)
    (hgiven : search.findSome? (given? fs f) = some leaf.toValue) (home : Option FilePath) :
    (f.refresh (load fs home search .legacy []).settings.toValue).value = some leaf := by
  have hdefault : Settings.default .verification ≠ none := Option.some_ne_none _
  obtain ⟨-, hget⟩ :=
    settings_legacyLayersFrom fs ⟨Settings.default, [], []⟩ hdefault search.reverse
  have hnode := hget f hf
  rw [List.reverse_reverse, hgiven, Option.some_or] at hnode
  rw [load_of_no_override fun f _ => Environment.override?_nil f]
  exact value_refresh_of_get? hf hkind hnode

/-- A candidate that cannot be decoded, and a candidate of lower priority that sets the number. -/
def brokenCandidate : FileSystem :=
  ⟨[(["r", "broken.yml"], .file "max_backups: many\n".toUTF8),
    (["r", "good.yml"], .file "max_backups: 5\n".toUTF8)], []⟩

/-- The second candidate gives the number. -/
theorem given?_brokenCandidate :
    given? brokenCandidate numberLeaf ⟨"/r/good.yml"⟩ = some (Leaf.number 5).toValue := by
  have hnumber : (ConfigFile.loadSettings brokenCandidate ⟨"/r/good.yml"⟩).toOption.map
      (fun c => Setting.maxBackups.type.toValue (c .maxBackups)) = some (.int 5) := by
    decide +kernel
  obtain ⟨loaded, hload, hvalue⟩ := Option.map_eq_some_iff.mp hnumber
  have hnode : loaded.toValue.get? numberLeaf.path = some (Leaf.number 5).toValue := by
    have hfield := Settings.field?_toValue loaded .maxBackups
    rw [hvalue] at hfield
    exact (SettingLeaf.get?_own _ _ _).trans hfield
  have hdefault : (numberLeaf.refresh Settings.default.toValue).value ≠ some (.number 5) := by
    rw [default_numberLeaf]
    decide
  exact given?_of_loadSettings numberLeaf_mem (by decide +kernel) (toOption_eq_some_iff.mp hload)
    rfl hnode hdefault

/-- The number that the second candidate sets is attributed to the first, which was skipped. -/
theorem skipped_candidate_is_origin :
    (∀ p ∈ ([⟨"/r/broken.yml"⟩, ⟨"/r/good.yml"⟩] : SearchPath),
      p.isAbsolute = true ∧ p.normalize = p) ∧
    ∃ run, load brokenCandidate none [⟨"/r/broken.yml"⟩, ⟨"/r/good.yml"⟩] .legacy [] = run ∧
      (numberLeaf.refresh run.settings.toValue).value = some (.number 5) ∧
      (∃ a ∈ run.origins, a.name = "max_backups" ∧ a.origin = .file ⟨"/r/broken.yml"⟩) ∧
      run.applied = [⟨"/r/good.yml"⟩] ∧ run.Skips ⟨"/r/broken.yml"⟩ := by
  have hfile : brokenCandidate.isFile ⟨"/r/broken.yml"⟩ = true := by decide +kernel
  have hbroken : loadable brokenCandidate ⟨"/r/broken.yml"⟩ = false := by decide +kernel
  have hgood : loadable brokenCandidate ⟨"/r/good.yml"⟩ = true := by decide +kernel
  have hgiven : ([⟨"/r/broken.yml"⟩, ⟨"/r/good.yml"⟩] : SearchPath).findSome?
      (given? brokenCandidate numberLeaf) = some (Leaf.number 5).toValue := by
    rw [List.findSome?_cons, given?_of_not_loadable hbroken, List.findSome?_singleton]
    exact given?_brokenCandidate
  have hnumber := value_load_legacy numberLeaf_mem rfl hgiven none
  have hactive : (load brokenCandidate none [⟨"/r/broken.yml"⟩, ⟨"/r/good.yml"⟩] .legacy
      []).active = some ⟨"/r/broken.yml"⟩ := by
    rw [active_load, SearchPath.existing, List.filter_cons_of_pos hfile]
    rfl
  refine ⟨by decide +kernel, _, rfl, hnumber,
    exists_file_origin numberLeaf_mem (changed_numberLeaf (by decide) hnumber) hactive, ?_,
    skips_load_legacy List.mem_cons_self hfile hbroken none []⟩
  rw [applied_load_legacy]
  simp [hbroken, hgood]

end LayeredConfig.Resolution
