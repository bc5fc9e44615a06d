import LayeredConfig.Proofs.Fallible
import LayeredConfig.Proofs.Merge.Change
import LayeredConfig.Resolution

/-
  The problems that resolution can report. A problem of reading or applying a file names that
  file and costs no more than it or one of its keys (`ofFile_of_mem_applyFiles`), and the problems
  of its operations cost keys alone (`ofKey_of_mem_apply`); a problem of building a chain is of the
  other sort, which ends the resolution (`build_error`).
-/

namespace LayeredConfig

/-- A problem that costs one file or one key in it. -/
inductive Problem.OfFile (p : FilePath) : Problem → Prop
  | undecodable (reason : String) : OfFile p (.undecodable p reason)
  | unknownField (key : String) : OfFile p (.unknownField key p)
  | typeMismatch (key expected : String) : OfFile p (.typeMismatch key expected p)

/-- A problem that costs one key of a file. -/
inductive Problem.OfKey (p : FilePath) : Problem → Prop
  | unknownField (key : String) : OfKey p (.unknownField key p)
  | typeMismatch (key expected : String) : OfKey p (.typeMismatch key expected p)

theorem Problem.OfKey.ofFile {p : FilePath} {problem : Problem} (h : problem.OfKey p) :
    problem.OfFile p := by
  cases h with
  | unknownField key => exact .unknownField key
  | typeMismatch key expected => exact .typeMismatch key expected

theorem Problem.OfFile.isRecoverable {p : FilePath} {problem : Problem} (h : problem.OfFile p) :
    problem.isRecoverable = true := by
  cases h <;> rfl

/-! ## Problems of files -/

namespace ConfigFile

theorem readText_error {fs : FileSystem} {p : FilePath} {problem : Problem}
    (h : fs.readText p = .error problem) : ∃ reason, problem = .undecodable p reason := by
  unfold FileSystem.readText at h
  split at h <;> cases h
  exact ⟨_, rfl⟩

theorem ofYaml_error {α : Type} {p : FilePath} {result : Except Yaml.Fault α} {problem : Problem}
    (h : ofYaml p result = .error problem) : ∃ reason, problem = .undecodable p reason := by
  cases result <;> cases h
  exact ⟨_, rfl⟩

theorem operationsOf_error {p : FilePath} {datum : Yaml.Datum} {problem : Problem}
    (h : operationsOf p datum = .error problem) : ∃ reason, problem = .undecodable p reason := by
  unfold operationsOf at h
  split at h
  · cases h
  · split at h <;> cases h
    exact ⟨_, rfl⟩
  · cases h
    exact ⟨_, rfl⟩

/-- A file whose operations cannot be read is reported as undecodable. -/
theorem loadOperations_error {fs : FileSystem} {p : FilePath} {problem : Problem}
    (h : loadOperations fs p = .error problem) : ∃ reason, problem = .undecodable p reason := by
  rcases bind_eq_error.mp h with hread | ⟨text, -, hrest⟩
  · exact readText_error hread
  · rcases bind_eq_error.mp hrest with hyaml | ⟨datum, -, hops⟩
    · exact ofYaml_error hyaml
    · exact operationsOf_error hops

/-- A file that cannot be read whole is reported as undecodable. -/
theorem loadSettings_error {fs : FileSystem} {p : FilePath} {problem : Problem}
    (h : loadSettings fs p = .error problem) : ∃ reason, problem = .undecodable p reason := by
  rcases bind_eq_error.mp h with hread | ⟨text, -, hyaml⟩
  · exact readText_error hread
  · exact ofYaml_error hyaml

end ConfigFile

namespace Merge

variable {fields : List Field} {document : Value} {op : Operation} {source : FilePath}

theorem clearEffect_ne_reject (s : Strategy) (problem : Problem) :
    clearEffect s ≠ .reject problem := by
  unfold clearEffect
  split <;> simp

theorem leafEffect_reject {f : Field} {problem : Problem}
    (h : leafEffect document op f source = .reject problem) : problem.OfKey source := by
  unfold leafEffect at h
  split at h
  · split at h
    · exact absurd h (clearEffect_ne_reject _ _)
    · cases h
      exact .typeMismatch _ _
  · split at h
    · split at h <;> cases h
    · cases h
      exact .typeMismatch _ _

theorem effect_reject {problem : Problem} (h : effect document op fields source = .reject problem) :
    problem.OfKey source := by
  unfold effect at h
  split at h
  · exact leafEffect_reject h
  · split at h
    · split at h
      · exact absurd h (clearEffect_ne_reject _ _)
      · cases h
        exact .typeMismatch _ _
    · cases h
      exact .unknownField _

theorem ofKey_of_mem_step {problem : Problem}
    (h : problem ∈ (step document op fields source).2.toList) : problem.OfKey source := by
  unfold step at h
  split at h
  · cases h
  · cases h
  · next heffect =>
    rw [Option.toList_some, List.mem_singleton] at h
    subst h
    exact effect_reject heffect

/-- The operations of a file cost no more than their own keys. -/
theorem ofKey_of_mem_apply {ops : List Operation} {problem : Problem}
    (h : problem ∈ (apply document ops fields source).2) : problem.OfKey source := by
  induction ops generalizing document with
  | nil => cases h
  | cons op rest ih =>
    rw [apply_cons] at h
    rcases List.mem_append.mp h with hstep | hrest
    · exact ofKey_of_mem_step hstep
    · exact ih hrest

end Merge

namespace Resolution

variable {fs : FileSystem}

theorem ofFile_of_mem_applyFile {document : Value} {p : FilePath} {problem : Problem}
    (h : problem ∈ (applyFile fs document p).2) : problem.OfFile p := by
  unfold applyFile at h
  split at h
  · exact (Merge.ofKey_of_mem_apply h).ofFile
  · next hload =>
    rw [List.mem_singleton] at h
    obtain ⟨reason, rfl⟩ := ConfigFile.loadOperations_error hload
    rw [h]
    exact .undecodable reason

theorem applyFiles_cons (fs : FileSystem) (document : Value) (p : FilePath)
    (rest : List FilePath) :
    applyFiles fs document (p :: rest) =
      ((applyFiles fs (applyFile fs document p).1 rest).1,
        (applyFile fs document p).2 ++ (applyFiles fs (applyFile fs document p).1 rest).2) := rfl

/-- Applying files reports problems of these files alone. -/
theorem ofFile_of_mem_applyFiles {document : Value} {files : List FilePath} {problem : Problem}
    (h : problem ∈ (applyFiles fs document files).2) : ∃ p ∈ files, problem.OfFile p := by
  induction files generalizing document with
  | nil => cases h
  | cons p rest ih =>
    rw [applyFiles_cons] at h
    rcases List.mem_append.mp h with hfirst | hrest
    · exact ⟨p, List.mem_cons_self, ofFile_of_mem_applyFile hfirst⟩
    · obtain ⟨q, hq, hproblem⟩ := ih hrest
      exact ⟨q, List.mem_cons_of_mem p hq, hproblem⟩

end Resolution

/-! ## Problems of chains -/

namespace Chain

variable {fs : FileSystem} {home : Option FilePath}

theorem validate_error {p : FilePath} {problem : Problem}
    (h : fs.validate p = .error problem) : problem.isRecoverable = false := by
  unfold FileSystem.validate at h
  split at h <;> cases h <;> rfl

theorem enter_error {met : List FilePath} {p : FilePath} {problem : Problem}
    (h : enter fs met p = .error problem) : problem.isRecoverable = false := by
  unfold enter at h
  split at h
  · cases h
    rfl
  · exact validate_error h

theorem visit_error {depth : Nat} {w : Walk} {p : FilePath} {problem : Problem}
    (h : visit fs home depth w p = .error problem) : problem.isRecoverable = false := by
  induction depth generalizing w p problem with
  | zero =>
    cases h
    rfl
  | succ depth ih =>
    rcases bind_eq_error.mp h with henter | ⟨_, -, hrest⟩
    · exact enter_error henter
    · rcases bind_eq_error.mp hrest with hparents | ⟨_, -, hdone⟩
      · exact of_foldlM_eq_error (fun _ _ _ hparent => ih hparent) hparents
      · cases hdone

/-- A chain that cannot be built is no problem to recover from. -/
theorem build_error {start : FilePath} {problem : Problem}
    (h : build fs home start = .error problem) : problem.isRecoverable = false := by
  rcases bind_eq_error.mp h with hvisit | ⟨_, -, hdone⟩
  · exact visit_error hvisit
  · cases hdone

end Chain

end LayeredConfig
