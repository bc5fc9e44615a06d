import LayeredConfig.Proofs.Chain.Build

/-
  Spellings of one file. A walk compares paths by their steps. The start and every relative
  reference enter it in normal form, but an absolute reference enters as it is written. So a walk
  meets each file under one spelling as long as absolute references are written in normal form
  (`normal_of_reached`): then no two files of a chain have the same normal form, and a file that is
  reached again under another spelling counts as circular (`files_differ_in_normal_form`). Without
  that condition one file can enter a chain twice (`one_file_in_two_spellings`).
-/

namespace LayeredConfig.Chain

variable {fs : FileSystem} {home : Option FilePath} {start : FilePath}

/-! ## Paths that are reached -/

/-- All paths are reached that a walk comes to through regular files. -/
theorem reached_of_meets {n : Nat} {ps before : List FilePath} {p : FilePath}
    (hps : ∀ q ∈ ps, Reached fs home start q) (hmeets : meets fs home n ps = before ++ [p])
    (hfile : ∀ q ∈ before, fs.isFile q = true) :
    ∀ q ∈ before ++ [p], Reached fs home start q := by
  induction n generalizing ps before with
  | zero => cases before <;> cases hmeets
  | succ n ih =>
    cases ps with
    | nil => cases before <;> cases hmeets
    | cons r pending =>
      have hr : Reached fs home start r := hps r List.mem_cons_self
      rw [meets] at hmeets
      cases before with
      | nil =>
        rw [List.nil_append, List.cons.injEq] at hmeets
        intro q hq
        rw [List.nil_append, List.mem_singleton] at hq
        rw [hq, ← hmeets.1]
        exact hr
      | cons r' before =>
        rw [List.cons_append, List.cons.injEq] at hmeets
        obtain ⟨rfl, hrest⟩ := hmeets
        have hpending : ∀ q ∈ parentPaths fs home r ++ pending, Reached fs home start q := by
          intro q hq
          rcases List.mem_append.mp hq with hq | hq
          · exact .parent hr (hfile r List.mem_cons_self) hq
          · exact hps q (List.mem_cons_of_mem _ hq)
        have hlater := ih hpending hrest fun q hq => hfile q (List.mem_cons_of_mem _ hq)
        intro q hq
        rcases List.mem_cons.mp hq with rfl | hq
        · exact hr
        · exact hlater q hq

/-- The files of a chain are reached from its normalized start. -/
theorem reached_of_mem_build (hs : start.isAbsolute = true) {files : List FilePath}
    (h : build fs home start = .ok files) :
    ∀ p ∈ files, Reached fs home start.normalize p := by
  obtain ⟨t, ht, rfl⟩ := (build_eq_ok_iff hs).mp h
  intro p hp
  refine reached_of_mem_preOrder t (fun q hq => ?_) ht.2 p ((postOrder_perm_preOrder t).subset hp)
  rw [List.mem_singleton.mp hq]
  exact .start

/-- Paths that hold the start and the parents of their members hold all that is reached. -/
theorem mem_of_reached {ps : List FilePath} (hstart : start ∈ ps)
    (hparents : ∀ child ∈ ps, ∀ p ∈ parentPaths fs home child, p ∈ ps) {p : FilePath}
    (h : Reached fs home start p) : p ∈ ps := by
  induction h with
  | start => exact hstart
  | parent _ _ hp ih => exact hparents _ ih _ hp

/-! ## Normal references -/

/-- The absolute references that a file writes are written in normal form. -/
def WritesNormal (fs : FileSystem) (home : Option FilePath) (p : FilePath) : Prop :=
  ∀ reference ∈ ConfigFile.parentsOf fs p,
    (FilePath.expandTilde reference home).isAbsolute = true →
      (FilePath.expandTilde reference home).IsNormal

/-- Whether a file writes its references so can be decided. -/
instance (fs : FileSystem) (home : Option FilePath) (p : FilePath) :
    Decidable (WritesNormal fs home p) :=
  inferInstanceAs (Decidable (∀ reference ∈ ConfigFile.parentsOf fs p,
    (FilePath.expandTilde reference home).isAbsolute = true →
      (FilePath.expandTilde reference home).IsNormal))

/-- From a normalized start, through files that write absolute references in normal form, only
normal paths are reached. -/
theorem normal_of_reached (hs : start.isAbsolute = true)
    (hwritten : ∀ child, Reached fs home start.normalize child → WritesNormal fs home child)
    {p : FilePath} (h : Reached fs home start.normalize p) : p.IsNormal := by
  have hnormal := (FilePath.isAbsolute_normalize start).trans hs
  induction h with
  | start => exact FilePath.isNormal_normalize start
  | @parent child p hchild hfile hp _ =>
    obtain ⟨content, hcontent⟩ :=
      FileSystem.validate_eq_ok_iff.mp (FileSystem.isFile_iff.mp hfile)
    have habsolute : child.isAbsolute = true := (shape_of_reached hnormal hchild).1
    have hne : child.steps ≠ [.root] := FileSystem.steps_ne_root_of_find_file habsolute hcontent
    obtain ⟨reference, hreference, rfl⟩ := List.mem_map.mp hp
    rw [parentPath]
    rcases FilePath.resolve_of_isAbsolute (FilePath.expandTilde reference home) habsolute hne with
      ⟨hroot, hresolve⟩ | ⟨names, hnames, hresolve⟩
    · rw [hresolve]
      exact hwritten child hchild reference hreference hroot
    · rw [hresolve]
      exact FilePath.isNormal_ofSteps_place hnames

/-- Normal paths are the same exactly when their normal forms are. -/
theorem sameAs_normalize_of_isNormal {p q : FilePath} (hp : p.IsNormal) (hq : q.IsNormal) :
    p.normalize.sameAs q.normalize = p.sameAs q := by
  rw [FilePath.sameAs, FilePath.sameAs, hp, hq]

/-! ## One spelling -/

/-- One file is one path of a chain if the files that are reached write their absolute references in
normal form. No two files of a chain then have the same normal form, and a walk that comes to a file
again, under whatever spelling, reports it as circular. -/
theorem files_differ_in_normal_form (fs : FileSystem) (home : Option FilePath) (start : FilePath)
    (hs : start.isAbsolute = true)
    (hwritten : ∀ child, Reached fs home start.normalize child → WritesNormal fs home child) :
    (∀ files, build fs home start = .ok files →
      files.Pairwise fun p q => p.normalize.sameAs q.normalize = false) ∧
    ∀ before p, meets fs home (before.length + 1) [start.normalize] = before ++ [p] →
      Sound fs before → (∃ q ∈ before, p.normalize.sameAs q.normalize = true) →
        build fs home start = .error (.circularDependency p) := by
  constructor
  · intro files hfiles
    have hnormal : ∀ p ∈ files, p.IsNormal := fun p hp =>
      normal_of_reached hs hwritten (reached_of_mem_build hs hfiles p hp)
    obtain ⟨t, ht, rfl⟩ := (build_eq_ok_iff hs).mp hfiles
    refine (pairwise_postOrder ht).imp_of_mem fun {p q} hp hq hpq => ?_
    rw [sameAs_normalize_of_isNormal (hnormal p hp) (hnormal q hq)]
    exact hpq
  · rintro before p hmeets hsound ⟨q, hq, hsame⟩
    have hfirst : ∀ r ∈ [start.normalize], Reached fs home start.normalize r := by
      intro r hr
      rw [List.mem_singleton.mp hr]
      exact .start
    have hreached := reached_of_meets hfirst hmeets hsound.2
    have hp : p.IsNormal := normal_of_reached hs hwritten
      (hreached p (List.mem_append_right _ (List.mem_singleton.mpr rfl)))
    have hq' : q.IsNormal :=
      normal_of_reached hs hwritten (hreached q (List.mem_append_left _ hq))
    rw [sameAs_normalize_of_isNormal hp hq'] at hsame
    rw [build_eq_error_iff hs, breaksOff_iff]
    exact ⟨before, p, hmeets, hsound, .inl ⟨⟨q, hq, hsame⟩, rfl⟩⟩

/-- A file that refers to another one twice, the second time through a directory. -/
def detour : FileSystem :=
  ⟨[(["r", "a.yml"], .file "inherit: [/r/b.yml, d/../b.yml]\n".toUTF8),
    (["r", "b.yml"], .file "".toUTF8),
    (["r", "d"], .directory)], []⟩

/-- A relative reference that leads to a file met before is circular, whatever its spelling. -/
theorem files_differ_in_normal_form_detour :
    (FilePath.mk "/r/d/../a.yml").isAbsolute = true ∧
      (∀ child, Reached detour none (FilePath.mk "/r/d/../a.yml").normalize child →
        WritesNormal detour none child) ∧
      build detour none ⟨"/r/d/../a.yml"⟩ = .error (.circularDependency ⟨"/r/b.yml"⟩) := by
  have hs : (FilePath.mk "/r/d/../a.yml").isAbsolute = true := by decide
  have hwritten : ∀ child, Reached detour none (FilePath.mk "/r/d/../a.yml").normalize child →
      WritesNormal detour none child := by
    have hstart : (FilePath.mk "/r/d/../a.yml").normalize ∈
        [FilePath.mk "/r/a.yml", ⟨"/r/b.yml"⟩] := by decide +kernel
    have hparents : ∀ child ∈ [FilePath.mk "/r/a.yml", ⟨"/r/b.yml"⟩],
        ∀ p ∈ parentPaths detour none child, p ∈ [FilePath.mk "/r/a.yml", ⟨"/r/b.yml"⟩] := by
      decide +kernel
    have hnormal : ∀ child ∈ [FilePath.mk "/r/a.yml", ⟨"/r/b.yml"⟩],
        WritesNormal detour none child := by decide +kernel
    exact fun child h => hnormal child (mem_of_reached hstart hparents h)
  refine ⟨hs, hwritten, (files_differ_in_normal_form detour none _ hs hwritten).2
    [⟨"/r/a.yml"⟩, ⟨"/r/b.yml"⟩] ⟨"/r/b.yml"⟩ ?_ ⟨?_, ?_⟩ ⟨⟨"/r/b.yml"⟩, ?_, ?_⟩⟩
  · decide +kernel
  · decide +kernel
  · decide +kernel
  · decide
  · decide +kernel

/-- A file with two absolute references to one file, one of them through a directory. -/
def twoSpellings : FileSystem :=
  ⟨[(["r", "a.yml"], .file "inherit: [/r/d/../base.yml, /r/base.yml]\n".toUTF8),
    (["r", "base.yml"], .file "".toUTF8),
    (["r", "d"], .directory)], []⟩

/-- An absolute reference that is not in normal form brings one file into a chain twice. -/
theorem one_file_in_two_spellings :
    (FilePath.mk "/r/a.yml").isAbsolute = true ∧
      ∃ files, build twoSpellings none ⟨"/r/a.yml"⟩ = .ok files ∧
        files = [⟨"/r/d/../base.yml"⟩, ⟨"/r/base.yml"⟩, ⟨"/r/a.yml"⟩] ∧
        ¬ files.Pairwise fun p q => p.normalize.sameAs q.normalize = false := by
  have hbuild : (build twoSpellings none ⟨"/r/a.yml"⟩).toOption =
      some [⟨"/r/d/../base.yml"⟩, ⟨"/r/base.yml"⟩, ⟨"/r/a.yml"⟩] := by decide +kernel
  exact ⟨by decide, _, toOption_eq_some_iff.mp hbuild, rfl, by decide +kernel⟩

end LayeredConfig.Chain
