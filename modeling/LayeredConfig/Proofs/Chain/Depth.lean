import LayeredConfig.Proofs.Chain.Unfolding

/-
  Why a walk along references ends. Every path that a walk comes to is absolute, and is the
  start, a reference as some file writes it, or the normal form of a file's place
  (`shape_of_reached`). So the files met have their steps in one finite list, `candidates`, and as
  they are pairwise different there are fewer of them than `depthBound` (`length_lt_depthBound`).
-/

namespace LayeredConfig.Chain

variable {fs : FileSystem} {home : Option FilePath} {start : FilePath}

/-- The paths that references lead to from a start, through regular files. -/
inductive Reached (fs : FileSystem) (home : Option FilePath) (start : FilePath) :
    FilePath → Prop where
  | start : Reached fs home start start
  | parent {child p : FilePath} (hchild : Reached fs home start child)
      (hfile : fs.isFile child = true) (hp : p ∈ parentPaths fs home child) :
      Reached fs home start p

/-- All references that contents of files write. -/
def references (fs : FileSystem) : List String := (contents fs).flatMap ConfigFile.parentsIn

/-- The places of all files. -/
def filePlaces (fs : FileSystem) : List (List String) :=
  fs.entries.filterMap fun e =>
    match e.2 with
    | .file _ => some e.1
    | .directory => none

/-- The steps that a regular file on a walk can have. -/
def candidates (fs : FileSystem) (home : Option FilePath) (start : FilePath) :
    List (List FilePath.Step) :=
  start.steps ::
    ((references fs).map (fun reference => (FilePath.expandTilde reference home).steps) ++
      (filePlaces fs).map FilePath.place)

/-- A path that can be met before others: reached, and a regular file that differs from the paths
met before it. -/
def Trail (fs : FileSystem) (home : Option FilePath) (start : FilePath) (met : List FilePath) :
    Prop :=
  Enterable fs [] met.reverse ∧ ∀ p ∈ met, Reached fs home start p

/-! ## Files of the file system -/

theorem mem_contents {place : List String} {content : ByteArray}
    (h : (place, .file content) ∈ fs.entries) : content ∈ contents fs :=
  List.mem_filterMap.mpr ⟨_, h, rfl⟩

theorem mem_filePlaces {place : List String} {content : ByteArray}
    (h : (place, .file content) ∈ fs.entries) : place ∈ filePlaces fs :=
  List.mem_filterMap.mpr ⟨_, h, rfl⟩

theorem length_filePlaces (fs : FileSystem) : (filePlaces fs).length = (contents fs).length := by
  unfold filePlaces contents
  induction fs.entries with
  | nil => rfl
  | cons e entries ih =>
    obtain ⟨place, entry⟩ := e
    cases entry with
    | directory => exact ih
    | file content => exact congrArg (· + 1) ih

/-- Some entry stands behind every content that a path leads to. -/
theorem mem_contents_of_find {p : FilePath} {content : ByteArray}
    (h : fs.find p = .ok (.file content)) : content ∈ contents fs := by
  obtain ⟨place, -, hentry⟩ := FileSystem.find_eq_ok h
  exact mem_contents (FileSystem.mem_entries_of_entry?_file hentry)

/-! ## Paths that are reached -/

theorem mem_parentPaths {child p : FilePath} (h : p ∈ parentPaths fs home child)
    {content : ByteArray} (hf : fs.find child = .ok (.file content)) :
    ∃ reference ∈ references fs, p = parentPath home child reference := by
  obtain ⟨reference, hreference, rfl⟩ := List.mem_map.mp h
  refine ⟨reference, List.mem_flatMap.mpr ⟨content, mem_contents_of_find hf, ?_⟩, rfl⟩
  rw [← FileSystem.parentsOf_eq_parentsIn hf]
  exact hreference

/-- From an absolute start only absolute paths are reached, each the start, a reference as written,
or a normal form. -/
theorem shape_of_reached (hs : start.isAbsolute = true) {p : FilePath}
    (h : Reached fs home start p) :
    p.isAbsolute = true ∧ (p = start ∨
      (∃ reference ∈ references fs, p = FilePath.expandTilde reference home) ∨
      ∃ names : List String, (∀ s ∈ names, FilePath.IsName s) ∧
        p = FilePath.ofSteps (FilePath.place names)) := by
  induction h with
  | start => exact ⟨hs, .inl rfl⟩
  | @parent child p hchild hfile hp ih =>
    obtain ⟨content, hcontent⟩ :=
      FileSystem.validate_eq_ok_iff.mp (FileSystem.isFile_iff.mp hfile)
    obtain ⟨reference, hreference, rfl⟩ := mem_parentPaths hp hcontent
    have hne : child.steps ≠ [.root] := FileSystem.steps_ne_root_of_find_file ih.1 hcontent
    rcases FilePath.resolve_of_isAbsolute (FilePath.expandTilde reference home) ih.1 hne with
      ⟨habs, hr⟩ | ⟨names, hnames, hr⟩
    · rw [parentPath, hr]
      exact ⟨habs, .inr (.inl ⟨reference, hreference, rfl⟩)⟩
    · rw [parentPath, hr]
      exact ⟨FilePath.isAbsolute_ofSteps_root _, .inr (.inr ⟨names, hnames, rfl⟩)⟩

/-- The steps of every regular file that is reached are among the candidates. -/
theorem steps_mem_candidates (hs : start.isAbsolute = true) {p : FilePath}
    (h : Reached fs home start p) (hfile : fs.isFile p = true) :
    p.steps ∈ candidates fs home start := by
  unfold candidates
  rw [List.mem_cons, List.mem_append]
  rcases (shape_of_reached hs h).2 with rfl | ⟨reference, hreference, rfl⟩ | ⟨names, hnames, rfl⟩
  · exact .inl rfl
  · exact .inr (.inl (List.mem_map.mpr ⟨reference, hreference, rfl⟩))
  · right
    right
    obtain ⟨content, hcontent⟩ :=
      FileSystem.validate_eq_ok_iff.mp (FileSystem.isFile_iff.mp hfile)
    have hentry := FileSystem.entry?_of_find_place hnames hcontent
    rw [FilePath.steps_ofSteps_place hnames]
    exact List.mem_map.mpr
      ⟨names, mem_filePlaces (FileSystem.mem_entries_of_entry?_file hentry), rfl⟩

/-! ## The bound -/

theorem length_candidates_lt (fs : FileSystem) (home : Option FilePath) (start : FilePath) :
    (candidates fs home start).length < depthBound fs := by
  have hmul : (contents fs).length ≤ (FileSystem.maxPathLength + 1) * (contents fs).length :=
    Nat.le_mul_of_pos_left _ (Nat.succ_pos _)
  simp only [candidates, List.length_cons, List.length_append, List.length_map,
    length_filePlaces, references, depthBound]
  omega

/-- Fewer files are met on a walk than its depth may be. -/
theorem length_lt_depthBound (hs : start.isAbsolute = true) {met : List FilePath}
    (h : Trail fs home start met) : met.length < depthBound fs := by
  obtain ⟨henter, hreached⟩ := h
  obtain ⟨hpair, hfile⟩ := enterable_nil_iff.mp henter
  have hnodup : (met.reverse.map FilePath.steps).Nodup := by
    refine List.pairwise_map.mpr (hpair.imp fun {p q} hne heq => ?_)
    rw [sameAs_iff.mpr heq] at hne
    cases hne
  have hsub : met.reverse.map FilePath.steps ⊆ candidates fs home start := by
    intro steps hsteps
    obtain ⟨p, hp, rfl⟩ := List.mem_map.mp hsteps
    exact steps_mem_candidates hs (hreached p (List.mem_reverse.mp hp)) (hfile p hp)
  have hle := hnodup.length_le_of_subset hsub
  rw [List.length_map, List.length_reverse] at hle
  exact Nat.lt_of_le_of_lt hle (length_candidates_lt fs home start)

/-! ## Trails -/

/-- All regular files of an unfolding are reached when its first paths are. -/
theorem reached_of_mem_preOrder {ps : List FilePath} (t : Unfolding fs home ps)
    (hps : ∀ p ∈ ps, Reached fs home start p) (hfile : ∀ p ∈ t.preOrder, fs.isFile p = true) :
    ∀ p ∈ t.preOrder, Reached fs home start p := by
  induction t with
  | nil => exact hps
  | @cons p more parents rest ihp ihr =>
    rw [Unfolding.preOrder] at hfile ⊢
    have hp : Reached fs home start p := hps p List.mem_cons_self
    have hfirst : fs.isFile p = true := hfile p List.mem_cons_self
    intro q hq
    rcases List.mem_cons.mp hq with rfl | hq
    · exact hp
    · rcases List.mem_append.mp hq with hq | hq
      · refine ihp (fun r hr => .parent hp hfirst hr) (fun r hr => ?_) q hq
        exact hfile r (List.mem_cons_of_mem _ (List.mem_append_left _ hr))
      · refine ihr (fun r hr => hps r (List.mem_cons_of_mem _ hr)) (fun r hr => ?_) q hq
        exact hfile r (List.mem_cons_of_mem _ (List.mem_append_right _ hr))

/-- A trail goes on with any reached paths that can be entered after it. -/
theorem trail_append {met ps : List FilePath} (h : Trail fs home start met)
    (henter : Enterable fs met ps) (hps : ∀ p ∈ ps, Reached fs home start p) :
    Trail fs home start (ps.reverse ++ met) := by
  refine ⟨?_, ?_⟩
  · rw [List.reverse_append, List.reverse_reverse, enterable_append, List.reverse_reverse,
      List.append_nil]
    exact ⟨h.1, henter⟩
  · intro p hp
    rcases List.mem_append.mp hp with hp | hp
    · exact hps p (List.mem_reverse.mp hp)
    · exact h.2 p hp

theorem trail_nil : Trail fs home start [] :=
  ⟨trivial, fun _ hp => absurd hp List.not_mem_nil⟩

end LayeredConfig.Chain
