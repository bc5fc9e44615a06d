import LayeredConfig.Proofs.Merge.Complete
import LayeredConfig.Proofs.Resolution.Skipped
import LayeredConfig.Query

/-
  Where a resolution says that its values come from. There is one origin for each leaf
  (`mem_origins_iff`, `origin?_eq`), and a leaf that has its default is attributed to the default.
  When all leaves are attributed at once, the others go to the first candidate that exists
  (`origin_ofLeaf_eq_file_iff`). A single leaf goes to the environment when its variable is set,
  whether or not the text could be read (`environment_origin_iff`, with a text that could not in
  `unreadable_variable_is_origin`).
-/

namespace LayeredConfig.Resolution

open Environment (variableOf)

variable {environment : Environment} {r : Resolution} {f : Field} {a : Attribution}
  {p : FilePath}

/-! ## Leaves by their paths -/

@[simp] theorem path_refresh (f : Field) (document : Value) :
    (f.refresh document).path = f.path := rfl

/-- No two discovered leaves have the same path. -/
theorem eq_refresh_of_path {g : Field} {document : Value} (hf : f ∈ fields)
    (hg : g ∈ Settings.shape.discover document) (h : (g.path == f.path) = true) :
    g = f.refresh document := by
  obtain ⟨f', hf', rfl⟩ := List.mem_map.mp hg
  have hpath : f'.path = f.path := beq_iff_eq.mp h
  rw [separate_fields.eq_of_prefix hf' hf (hpath ▸ List.prefix_rfl)]

theorem refresh_mem_discover (hf : f ∈ fields) (document : Value) :
    f.refresh document ∈ Settings.shape.discover document :=
  List.mem_map.mpr ⟨f, hf, rfl⟩

theorem find?_discover (hf : f ∈ fields) (document : Value) :
    (Settings.shape.discover document).find? (·.path == f.path) = some (f.refresh document) :=
  find?_eq_some_of_unique (refresh_mem_discover hf document) (beq_self_eq_true f.path)
    fun _ hg hpath => eq_refresh_of_path hf hg hpath

theorem findRev?_discover (hf : f ∈ fields) (document : Value) :
    (Settings.shape.discover document).findRev? (·.path == f.path) =
      some (f.refresh document) := by
  rw [List.findRev?_eq_findRev?TR]
  exact find?_eq_some_of_unique (List.mem_reverse.mpr (refresh_mem_discover hf document))
    (beq_self_eq_true f.path)
    fun _ hg hpath => eq_refresh_of_path hf (List.mem_reverse.mp hg) hpath

/-! ## Origins -/

/-- The leaf has another value than by default. -/
def Changed (r : Resolution) (f : Field) : Prop :=
  (f.refresh r.settings.toValue).value ≠ (f.refresh Settings.default.toValue).value

theorem origin?_of_find? {path : String} {resolved default : Field}
    (hresolved : r.leaves.find? (·.path == path) = some resolved)
    (hdefault : defaultLeaves.find? (·.path == path) = some default) :
    r.origin? path = some (.one resolved default r.environment) := by
  rw [origin?, hresolved, hdefault]

/-- The leaf at the path of a field is attributed by its own variable. -/
theorem origin?_eq (r : Resolution) (hf : f ∈ fields) :
    r.origin? f.path = some (.one (f.refresh r.settings.toValue)
      (f.refresh Settings.default.toValue) r.environment) :=
  origin?_of_find? (find?_discover hf r.settings.toValue)
    (find?_discover hf Settings.default.toValue)

theorem origin_one_eq_environment_iff {resolved default : Field} :
    (Attribution.one resolved default environment).origin = .environment ↔
      (environment.lookup (variableOf resolved.path)).isSome = true ∧
        resolved.value ≠ default.value := by
  unfold Attribution.one
  by_cases hvalue : resolved.value = default.value
  · simp [hvalue]
  · cases (environment.lookup (variableOf resolved.path)).isSome <;> simp [hvalue]

theorem isDefault_iff (hf : f ∈ fields) :
    Attribution.isDefault defaultLeaves (f.refresh r.settings.toValue) = true ↔ ¬ r.Changed f := by
  have hfind : defaultLeaves.findRev? (fun d => d.path == (f.refresh r.settings.toValue).path) =
      some (f.refresh Settings.default.toValue) := findRev?_discover hf _
  rw [Attribution.isDefault, hfind, Changed, ne_eq, Classical.not_not, beq_iff_eq, eq_comm]

/-- One of all origins is that of a leaf. -/
theorem mem_origins_iff :
    a ∈ r.origins ↔
      ∃ f ∈ fields, a = .ofLeaf defaultLeaves r.active (f.refresh r.settings.toValue) := by
  rw [origins, Attribution.all, mem_sortBy, List.mem_map]
  constructor
  · rintro ⟨g, hg, rfl⟩
    obtain ⟨f, hf, rfl⟩ := List.mem_map.mp (List.mem_filter.mp hg).1
    exact ⟨f, hf, rfl⟩
  · rintro ⟨f, hf, rfl⟩
    have hleaf : (f.refresh r.settings.toValue).isRecord = false := separate_fields.isRecord_eq f hf
    exact ⟨_, List.mem_filter.mpr ⟨refresh_mem_discover hf _, by rw [hleaf]; rfl⟩, rfl⟩

/-- A file is the origin of a leaf that differs from the default when it is the first candidate that
exists. -/
theorem origin_ofLeaf_eq_file_iff (hf : f ∈ fields) :
    (Attribution.ofLeaf defaultLeaves r.active (f.refresh r.settings.toValue)).origin = .file p ↔
      r.Changed f ∧ r.active = some p := by
  have hdefault := isDefault_iff (r := r) hf
  unfold Attribution.ofLeaf
  dsimp only
  split
  · next h => simp [hdefault.mp h]
  · next h =>
    have hchanged : r.Changed f := Classical.not_not.mp fun hnot => h (hdefault.mpr hnot)
    cases hactive : r.active with
    | none => simp
    | some active => simp [hchanged]

/-! ## The environment as origin -/

/-- A single leaf goes to the environment when its variable is set, whatever its text. -/
theorem exists_origin? (fs : FileSystem) (home : Option FilePath) (search : SearchPath)
    (mode : Mode) (environment : Environment) (hf : f ∈ fields) :
    ∃ a, (load fs home search mode environment).origin? f.path = some a ∧
      (a.origin = .environment ↔ (environment.lookup (variableOf f.path)).isSome = true ∧
        (load fs home search mode environment).Changed f) := by
  obtain ⟨c, -, hload⟩ := load_eq fs home search mode environment
  have hcaptured : (load fs home search mode environment).environment.lookup (variableOf f.path) =
      environment.lookup (variableOf f.path) := by
    rw [hload]
    dsimp only
    rw [Environment.lookup_capture hf (separate_fields.isRecord_eq f hf)]
  refine ⟨_, origin?_eq (load fs home search mode environment) hf, ?_⟩
  rw [origin_one_eq_environment_iff, path_refresh, hcaptured]
  rfl

/-- A single leaf is attributed to the environment exactly when its variable is set and its value
differs from the default. A text that can be read as the leaf is then its value. So for a variable
that is not set or can be read, the origin is the environment exactly when the environment gave the
leaf its value and the value differs from the default. -/
theorem environment_origin_iff (fs : FileSystem) (home : Option FilePath) (search : SearchPath)
    (mode : Mode) (environment : Environment) (hf : f ∈ fields) :
    ∃ run a, load fs home search mode environment = run ∧ run.origin? f.path = some a ∧
      (a.origin = .environment ↔
        (environment.lookup (variableOf f.path)).isSome = true ∧ run.Changed f) ∧
      (∀ leaf, environment.override? f = some leaf →
        (f.refresh run.settings.toValue).value = some leaf) ∧
      ((∀ text, environment.lookup (variableOf f.path) = some text →
          (Leaf.parse? f.kind text).isSome = true) →
        (a.origin = .environment ↔
          (environment.override? f).isSome = true ∧ run.Changed f)) := by
  have hdecode := decode_overlay fs home search mode environment
  obtain ⟨a, ha, horigin⟩ := exists_origin? fs home search mode environment hf
  refine ⟨_, a, rfl, ha, horigin, fun leaf hleaf => ?_, fun hreadable => ?_⟩
  · exact value_refresh_of_get? hf (Environment.kind_of_override? hleaf)
      (get?_of_override hdecode hf hleaf)
  · rw [horigin]
    refine and_congr_left fun _ => ?_
    unfold Environment.override?
    cases hset : environment.lookup (variableOf f.path) with
    | none => rfl
    | some text => simpa using hreadable text hset

/-- The leaf of a number. -/
def numberLeaf : Field := (SettingLeaf.own .maxBackups (by decide)).field

theorem numberLeaf_mem : numberLeaf ∈ fields := SettingLeaf.field_mem _

theorem default_numberLeaf :
    (numberLeaf.refresh Settings.default.toValue).value = some (.number 0) := by
  have hnode : Settings.default.toValue.get? numberLeaf.path = some (Leaf.number 0).toValue :=
    (SettingLeaf.get?_own _ _ _).trans (Settings.field?_toValue _ .maxBackups)
  exact value_refresh_of_get? numberLeaf_mem rfl hnode

theorem changed_numberLeaf {n : Int64} (hn : n ≠ 0)
    (h : (numberLeaf.refresh r.settings.toValue).value = some (.number n)) :
    r.Changed numberLeaf := by
  rw [Changed, h, default_numberLeaf]
  simpa using hn

/-- A file that sets the number. -/
def numberCandidate : FileSystem :=
  ⟨[(["r", "c.yml"], .file "max_backups: 10\n".toUTF8)], []⟩

theorem environment_origin_iff_number :
    numberLeaf ∈ fields ∧
    ∃ run a, load numberCandidate none [⟨"/r/c.yml"⟩] .inheritance
        [("BKPDIR_MAX_BACKUPS", " 11 ")] = run ∧
      run.origin? "max_backups" = some a ∧ a.origin = .environment ∧
      (numberLeaf.refresh run.settings.toValue).value = some (.number 11) := by
  obtain ⟨run, a, hrun, ha, -, hvalue, horigin⟩ := environment_origin_iff numberCandidate none
    [⟨"/r/c.yml"⟩] .inheritance [("BKPDIR_MAX_BACKUPS", " 11 ")] numberLeaf_mem
  have hgiven : Environment.override? [("BKPDIR_MAX_BACKUPS", " 11 ")] numberLeaf =
      some (.number 11) := by decide +kernel
  have hreadable : ∀ text, List.lookup (variableOf numberLeaf.path)
      [("BKPDIR_MAX_BACKUPS", " 11 ")] = some text →
        (Leaf.parse? numberLeaf.kind text).isSome = true := by
    intro text htext
    rw [Environment.override?, htext, Option.bind_some] at hgiven
    rw [hgiven]
    rfl
  have hnumber := hvalue _ hgiven
  refine ⟨numberLeaf_mem, run, a, hrun, ha, (horigin hreadable).mpr ⟨?_, ?_⟩, hnumber⟩
  · rw [hgiven]
    rfl
  · exact changed_numberLeaf (by decide) hnumber

/-- The number that the file sets, with or without the variable. -/
theorem load_numberCandidate {environment : Environment}
    (hnone : environment.override? numberLeaf = none) :
    (numberLeaf.refresh (load numberCandidate none [⟨"/r/c.yml"⟩] .inheritance
      environment).settings.toValue).value = some (.number 10) := by
  -- only reading the file is evaluated; the merge and the decoding go through every setting, and
  -- their lemmas say what becomes of this one
  have hchain : (chainFiles numberCandidate none (SearchPath.existing numberCandidate
      [⟨"/r/c.yml"⟩])).toOption = some [⟨"/r/c.yml"⟩] := by decide +kernel
  have hops : (ConfigFile.loadOperations numberCandidate ⟨"/r/c.yml"⟩).toOption =
      some [⟨.set, "max_backups", .int 10⟩] := by decide +kernel
  have hwrites : Merge.Writes fields ⟨.set, "max_backups", .int 10⟩ :=
    .leaf rfl numberLeaf_mem rfl (.inr ⟨.number 10, rfl, rfl⟩)
  have hreadable : Merge.Readable fields Settings.default.toValue :=
    (Settings.typed_toValue _).conforms.readable separate_fields
  have hfile : (applyFile numberCandidate Settings.default.toValue ⟨"/r/c.yml"⟩).1 =
      Settings.default.toValue.assign "max_backups" (.int 10) := by
    rw [applyFile, toOption_eq_some_iff.mp hops]
    dsimp only
    rw [Merge.apply_of_writes separate_fields hreadable (List.forall_mem_singleton.mpr hwrites)]
    rfl
  have hdocument : (applyFiles numberCandidate Settings.default.toValue [⟨"/r/c.yml"⟩]).1.get?
      numberLeaf.path = some (Leaf.number 10).toValue := by
    rw [applyFiles_cons, hfile]
    exact Value.get?_assign_self _ _ _
  obtain ⟨c, hc, hlayers⟩ := inheritanceLayers_of_chainFiles (toOption_eq_some_iff.mp hchain)
  obtain ⟨settings, hdecode, hload⟩ :=
    load_eq numberCandidate none [⟨"/r/c.yml"⟩] .inheritance environment
  rw [overlay_capture, fileLayers, hlayers] at hdecode
  have hkept : settings.toValue.get? numberLeaf.path = c.toValue.get? numberLeaf.path :=
    get?_of_no_override hdecode numberLeaf_mem hnone fun p hp => by
      cases p <;> exact absurd (congrArg Field.path hp) (by decide)
  have hread : c.toValue.get? numberLeaf.path = _ :=
    (typed_applyFiles _ _).get?_own_toValue hc (by decide)
  rw [hload]
  exact value_refresh_of_get? numberLeaf_mem rfl (hkept.trans (hread.trans hdocument))

/-- The number that the file sets is attributed to a variable with a text that was not read. -/
theorem unreadable_variable_is_origin :
    ∃ run a, load numberCandidate none [⟨"/r/c.yml"⟩] .inheritance
        [("BKPDIR_MAX_BACKUPS", "many")] = run ∧
      run.origin? "max_backups" = some a ∧ a.origin = .environment ∧
      Leaf.parse? .number "many" = none ∧
      (numberLeaf.refresh run.settings.toValue).value = some (.number 10) ∧
      (numberLeaf.refresh (load numberCandidate none [⟨"/r/c.yml"⟩] .inheritance
        []).settings.toValue).value = some (.number 10) := by
  have hset : List.lookup (variableOf numberLeaf.path) [("BKPDIR_MAX_BACKUPS", "many")] =
      some "many" := by decide +kernel
  have hunreadable : Leaf.parse? .number "many" = none := by decide +kernel
  have hnone : Environment.override? [("BKPDIR_MAX_BACKUPS", "many")] numberLeaf = none := by
    rw [Environment.override?, hset]
    exact hunreadable
  have hnumber := load_numberCandidate hnone
  obtain ⟨a, ha, horigin⟩ := exists_origin? numberCandidate none [⟨"/r/c.yml"⟩] .inheritance
    [("BKPDIR_MAX_BACKUPS", "many")] numberLeaf_mem
  refine ⟨_, a, rfl, ha, horigin.mpr ⟨?_, changed_numberLeaf (by decide) hnumber⟩, hunreadable,
    hnumber, load_numberCandidate (Environment.override?_nil _)⟩
  rw [hset]
  rfl

end LayeredConfig.Resolution
