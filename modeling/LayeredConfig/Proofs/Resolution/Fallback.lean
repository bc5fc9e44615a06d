import LayeredConfig.Proofs.Resolution.Layers

/-
  The fallback of inheritance mode is all or nothing. Candidates are built lowest priority first:
  either all of them have a chain, or the first failure is reported (`chainFiles_cases`). After a
  failure nothing of the chains before it is kept, and without one nothing is given up
  (`load_all_or_nothing`). A problem that cannot be recovered from is the mark of the fallback, in
  either mode (`not_recoverable_iff_fellBack`).
-/

namespace LayeredConfig.Resolution

variable {fs : FileSystem} {home : Option FilePath} {search : SearchPath}
  {environment : Environment}

/-- The problem is that of the first candidate whose chain cannot be built. -/
def FailsFirst (fs : FileSystem) (home : Option FilePath) (candidates : List FilePath)
    (problem : Problem) : Prop :=
  ∃ before candidate after, candidates = before ++ candidate :: after ∧
    (∀ c ∈ before, ∃ chain, Chain.build fs home c = .ok chain) ∧
    Chain.build fs home candidate = .error problem

/-- The resolution fell back: its state is that of the defaults with the environment over them,
no file was applied, and its only problem is that of the first chain that cannot be built, lowest
priority first. -/
def FellBack (fs : FileSystem) (home : Option FilePath) (search : SearchPath)
    (environment : Environment) (problem : Problem) : Prop :=
  FailsFirst fs home (search.existing fs).reverse problem ∧
    ∃ settings, Settings.decode (overlay Settings.default.toValue (environment.capture fields)
        fields) = .ok settings ∧
      load fs home search .inheritance environment =
        { search
          mode := .inheritance
          settings
          active := (search.existing fs).head?
          applied := []
          environment := environment.capture fields
          problems := [problem] }

/-! ## The first failure -/

theorem failsFirst_cons_of_error {candidate : FilePath} {failure : Problem}
    (h : Chain.build fs home candidate = .error failure) {rest : List FilePath}
    {problem : Problem} : FailsFirst fs home (candidate :: rest) problem ↔ failure = problem := by
  constructor
  · rintro ⟨before, first, after, heq, hbefore, hfirst⟩
    cases before with
    | nil =>
      cases heq
      exact Except.error.inj (h.symm.trans hfirst)
    | cons c more =>
      cases heq
      obtain ⟨chain, hchain⟩ := hbefore candidate List.mem_cons_self
      cases h.symm.trans hchain
  · rintro rfl
    refine ⟨[], candidate, rest, rfl, ?_, h⟩
    intro c hc
    cases hc

theorem failsFirst_cons_of_ok {candidate : FilePath} {chain : List FilePath}
    (h : Chain.build fs home candidate = .ok chain) {rest : List FilePath} {problem : Problem} :
    FailsFirst fs home (candidate :: rest) problem ↔ FailsFirst fs home rest problem := by
  constructor
  · rintro ⟨before, first, after, heq, hbefore, hfirst⟩
    cases before with
    | nil =>
      cases heq
      cases h.symm.trans hfirst
    | cons c more =>
      cases heq
      exact ⟨more, first, after, rfl, fun d hd => hbefore d (List.mem_cons_of_mem _ hd), hfirst⟩
  · rintro ⟨before, first, after, rfl, hbefore, hfirst⟩
    refine ⟨candidate :: before, first, after, rfl, ?_, hfirst⟩
    intro c hc
    rcases List.mem_cons.mp hc with rfl | hmem
    · exact ⟨chain, h⟩
    · exact hbefore c hmem

theorem FailsFirst.exists_mem {candidates : List FilePath} {problem : Problem}
    (h : FailsFirst fs home candidates problem) :
    ∃ c ∈ candidates, Chain.build fs home c = .error problem := by
  obtain ⟨before, c, after, rfl, -, hbuild⟩ := h
  exact ⟨c, List.mem_append.mpr (.inr List.mem_cons_self), hbuild⟩

/-! ## Files of all chains -/

/-- One candidate after another either all have a chain, or one of them fails first. -/
theorem foldlM_build {step : List FilePath → FilePath → Except Problem (List FilePath)}
    (hok : ∀ files {c chain}, Chain.build fs home c = .ok chain → ∃ next, step files c = .ok next)
    (herror : ∀ files {c problem}, Chain.build fs home c = .error problem →
      step files c = .error problem)
    (candidates files : List FilePath) :
    ((∀ c ∈ candidates, ∃ chain, Chain.build fs home c = .ok chain) ∧
        ∃ all, candidates.foldlM step files = .ok all) ∨
      ∃ problem, FailsFirst fs home candidates problem ∧
        candidates.foldlM step files = .error problem := by
  induction candidates generalizing files with
  | nil =>
    refine .inl ⟨?_, files, rfl⟩
    intro c hc
    cases hc
  | cons candidate rest ih =>
    rw [List.foldlM_cons]
    cases hbuild : Chain.build fs home candidate with
    | error failure =>
      rw [herror files hbuild, error_bind]
      exact .inr ⟨failure, (failsFirst_cons_of_error hbuild).mpr rfl, rfl⟩
    | ok chain =>
      obtain ⟨next, hnext⟩ := hok files hbuild
      rw [hnext, ok_bind]
      rcases ih next with ⟨hall, hfiles⟩ | ⟨problem, hfails, hproblem⟩
      · refine .inl ⟨?_, hfiles⟩
        intro c hc
        rcases List.mem_cons.mp hc with rfl | hmem
        · exact ⟨chain, hbuild⟩
        · exact hall c hmem
      · exact .inr ⟨problem, (failsFirst_cons_of_ok hbuild).mpr hfails, hproblem⟩

/-- The files of all candidates are those of chains that can all be built, or the first failure
in ascending priority is reported. -/
theorem chainFiles_cases (fs : FileSystem) (home : Option FilePath) (candidates : List FilePath) :
    ((∀ c ∈ candidates, ∃ chain, Chain.build fs home c = .ok chain) ∧
        ∃ files, chainFiles fs home candidates = .ok files) ∨
      ∃ problem, FailsFirst fs home candidates.reverse problem ∧
        chainFiles fs home candidates = .error problem := by
  have hok : ∀ files {c chain}, Chain.build fs home c = .ok chain →
      ∃ next, (do return extend files (← Chain.build fs home c) :
        Except Problem (List FilePath)) = .ok next := by
    intro files c chain h
    rw [h]
    exact ⟨_, rfl⟩
  have herror : ∀ files {c problem}, Chain.build fs home c = .error problem →
      (do return extend files (← Chain.build fs home c) :
        Except Problem (List FilePath)) = .error problem := by
    intro files c problem h
    rw [h]
    rfl
  rcases foldlM_build hok herror candidates.reverse [] with ⟨hall, hfiles⟩ | hfails
  · exact .inl ⟨fun c hc => hall c (List.mem_reverse.mpr hc), hfiles⟩
  · exact .inr hfails

/-! ## The fallback -/

/-- When a chain cannot be built, inheritance mode falls back. -/
theorem fellBack_of_failsFirst {problem : Problem}
    (hfails : FailsFirst fs home (search.existing fs).reverse problem)
    (hchain : chainFiles fs home (search.existing fs) = .error problem) :
    FellBack fs home search environment problem := by
  have hlayers : fileLayers fs home search .inheritance = fallback [] problem := by
    rw [fileLayers, inheritanceLayers, hchain]
  obtain ⟨settings, hdecode, hload⟩ := load_eq fs home search .inheritance environment
  rw [hlayers] at hdecode hload
  exact ⟨hfails, settings, hdecode, hload⟩

/-- The problems of a resolution that cannot be recovered from are those of its fallback. -/
theorem not_recoverable_iff_fellBack {mode : Mode} {problem : Problem} :
    (problem ∈ (load fs home search mode environment).problems ∧
        problem.isRecoverable = false) ↔
      mode = .inheritance ∧ FellBack fs home search environment problem := by
  constructor
  · rintro ⟨hmem, hfatal⟩
    obtain ⟨settings, -, hload⟩ := load_eq fs home search mode environment
    rw [hload] at hmem
    rcases ofFile_or_chainFiles hmem with ⟨p, hproblem⟩ | ⟨hmode, hchain⟩
    · rw [hproblem.isRecoverable] at hfatal
      cases hfatal
    · refine ⟨hmode, ?_⟩
      rcases chainFiles_cases fs home (search.existing fs) with ⟨-, files, hfiles⟩ |
        ⟨failure, hfails, hfailure⟩
      · cases hfiles.symm.trans hchain
      · cases hfailure.symm.trans hchain
        exact fellBack_of_failsFirst hfails hchain
  · rintro ⟨rfl, hfails, settings, -, hload⟩
    obtain ⟨c, -, hbuild⟩ := hfails.exists_mem
    rw [hload]
    exact ⟨List.mem_cons_self, Chain.build_error hbuild⟩

/-- Either every existing candidate has its chain, or inheritance mode falls back for the first
failure. In either mode, a problem that cannot be recovered from is reported exactly when the
resolution fell back for it, and then alone. -/
theorem load_all_or_nothing (fs : FileSystem) (home : Option FilePath) (search : SearchPath)
    (environment : Environment) :
    ((∀ c ∈ search.existing fs, ∃ chain, Chain.build fs home c = .ok chain) ∨
      ∃ problem, FellBack fs home search environment problem) ∧
    ∀ (mode : Mode) (problem : Problem),
      (problem ∈ (load fs home search mode environment).problems ∧
          problem.isRecoverable = false ↔
        mode = .inheritance ∧ FellBack fs home search environment problem) ∧
      (problem ∈ (load fs home search mode environment).problems ∧
          problem.isRecoverable = false →
        (load fs home search mode environment).problems = [problem]) := by
  constructor
  · rcases chainFiles_cases fs home (search.existing fs) with ⟨hall, -⟩ |
      ⟨problem, hfails, hchain⟩
    · exact .inl hall
    · exact .inr ⟨problem, fellBack_of_failsFirst hfails hchain⟩
  · intro mode problem
    refine ⟨not_recoverable_iff_fellBack, fun h => ?_⟩
    obtain ⟨rfl, -, settings, -, hload⟩ := not_recoverable_iff_fellBack.mp h
    rw [hload]

end LayeredConfig.Resolution
