import LayeredConfig.FilePath
import LayeredConfig.Proofs.Text.Pieces

/-
  Paths as lists of steps. A path written from the root and parts is read back
  (`steps_ofSteps_root`), and the normal form of an absolute path is written from the root and
  names alone (`normalize_of_isAbsolute`), so no two normal forms lead to one place. A reference
  resolved from an absolute file is itself as written or such a normal form
  (`resolve_of_isAbsolute`).
-/

namespace LayeredConfig.FilePath

/-! ## Parts of a path -/

/-- A text that stands for a name where it is a piece of a path. -/
def IsName (s : String) : Prop := s ≠ "" ∧ s ≠ "." ∧ s ≠ ".." ∧ '/' ∉ s.toList

/-- A step that a piece of a path stands for, wherever it is in the path. -/
def Step.IsPart : Step → Prop
  | .parent => True
  | .name s => IsName s
  | .root | .current => False

theorem stepOf?_text {s : Step} (h : s.IsPart) : stepOf? s.text = some s := by
  cases s with
  | root => exact h.elim
  | current => exact h.elim
  | parent => rfl
  | name s =>
    obtain ⟨hne, hdot, hdots, -⟩ := h
    simp [stepOf?, Step.text, hne, hdot, hdots]

theorem slash_not_mem_text {s : Step} (h : s.IsPart) : '/' ∉ s.text.toList := by
  cases s with
  | root => exact h.elim
  | current => exact h.elim
  | parent => decide
  | name s => exact h.2.2.2

/-- The steps that pieces of a path stand for are parts. -/
theorem isPart_of_mem_filterMap {p : FilePath} {s : Step}
    (h : s ∈ p.pieces.filterMap stepOf?) : s.IsPart := by
  obtain ⟨piece, hpiece, hs⟩ := List.mem_filterMap.mp h
  have hslash : '/' ∉ piece.toList := Text.not_mem_of_mem_split hpiece
  unfold stepOf? at hs
  split at hs
  · cases hs
  · next hblank =>
    rw [not_or] at hblank
    split at hs
    · cases hs
      trivial
    · next hdots =>
      cases hs
      exact ⟨hblank.1, hblank.2, hdots, hslash⟩

/-! ## Absolute paths -/

theorem isAbsolute_iff {p : FilePath} :
    p.isAbsolute = true ↔ ∃ rest, p.text.toList = '/' :: rest := by
  unfold isAbsolute Text.startsWith
  rw [show "/".toList = ['/'] from rfl, List.isPrefixOf_iff_prefix]
  constructor
  · rintro ⟨rest, h⟩
    exact ⟨rest, h.symm⟩
  · rintro ⟨rest, h⟩
    exact ⟨rest, h.symm⟩

theorem text_ne_empty_of_isAbsolute {p : FilePath} (h : p.isAbsolute = true) : p.text ≠ "" := by
  obtain ⟨rest, hrest⟩ := isAbsolute_iff.mp h
  intro he
  rw [he] at hrest
  cases hrest

theorem steps_of_isAbsolute {p : FilePath} (h : p.isAbsolute = true) :
    p.steps = .root :: p.pieces.filterMap stepOf? := by
  simp only [steps, h, if_true]

/-- The pieces of a path that is written from the root and at least one part. -/
theorem pieces_ofSteps_root {s : Step} {rest : List Step} (h : ∀ t ∈ s :: rest, t.IsPart) :
    (ofSteps (.root :: s :: rest)).pieces = "" :: (s :: rest).map Step.text := by
  unfold pieces ofSteps
  rw [Text.split_join rfl]
  · rfl
  · exact List.cons_ne_nil _ _
  · intro piece hpiece
    rw [List.map_cons, List.mem_cons] at hpiece
    rcases hpiece with rfl | hpiece
    · exact List.not_mem_nil
    · obtain ⟨t, ht, rfl⟩ := List.mem_map.mp hpiece
      exact slash_not_mem_text (h t ht)

@[simp] theorem isAbsolute_ofSteps_root (rest : List Step) :
    (ofSteps (.root :: rest)).isAbsolute = true := by
  rw [isAbsolute_iff]
  cases rest with
  | nil => exact ⟨[], rfl⟩
  | cons s rest =>
    refine ⟨Text.joinChars ['/'] (((s :: rest).map Step.text).map String.toList), ?_⟩
    simp only [ofSteps, Text.join, String.toList_ofList]
    rfl

theorem filterMap_stepOf?_text {rest : List Step} (h : ∀ s ∈ rest, s.IsPart) :
    (rest.map Step.text).filterMap stepOf? = rest := by
  induction rest with
  | nil => rfl
  | cons s rest ih =>
    rw [List.map_cons, List.filterMap_cons, stepOf?_text (h s List.mem_cons_self),
      ih fun t ht => h t (List.mem_cons_of_mem _ ht)]

/-- A path written from the root and parts is read back. -/
theorem steps_ofSteps_root {rest : List Step} (h : ∀ s ∈ rest, s.IsPart) :
    (ofSteps (.root :: rest)).steps = .root :: rest := by
  rw [steps_of_isAbsolute (isAbsolute_ofSteps_root rest)]
  cases rest with
  | nil => rfl
  | cons s rest =>
    rw [pieces_ofSteps_root h, List.filterMap_cons, filterMap_stepOf?_text h]
    rfl

/-! ## Normal forms -/

/-- The steps of an absolute normal form: the root and names. -/
def place (names : List String) : List Step := .root :: names.map .name

theorem isPart_of_mem_names {names : List String} (h : ∀ s ∈ names, IsName s) :
    ∀ t ∈ names.map Step.name, t.IsPart := by
  intro t ht
  obtain ⟨s, hs, rfl⟩ := List.mem_map.mp ht
  exact h s hs

@[simp] theorem keepStep_name (kept : List Step) (s : String) :
    keepStep kept (.name s) = .name s :: kept := by
  cases kept <;> rfl

/-- Only names are ever kept above what parent steps alone keep of a base. -/
theorem foldl_keepStep_above {P : List Step → Prop}
    (hP : ∀ base, P base → P (keepStep base .parent))
    {parts : List Step} (h : ∀ s ∈ parts, s.IsPart) {base : List Step} (hbase : P base)
    (names : List String) (hn : ∀ s ∈ names, IsName s) :
    ∃ (base' : List Step) (kept : List String), P base' ∧ (∀ s ∈ kept, IsName s) ∧
      parts.foldl keepStep (names.map .name ++ base) = kept.map .name ++ base' := by
  induction parts generalizing base names with
  | nil => exact ⟨base, names, hbase, hn, rfl⟩
  | cons s rest ih =>
    have hrest : ∀ t ∈ rest, t.IsPart := fun t ht => h t (List.mem_cons_of_mem _ ht)
    have hs : s.IsPart := h s List.mem_cons_self
    rw [List.foldl_cons]
    cases s with
    | root => exact hs.elim
    | current => exact hs.elim
    | name s =>
      rw [keepStep_name]
      refine ih hrest hbase (s :: names) ?_
      intro t ht
      rcases List.mem_cons.mp ht with rfl | ht
      · exact hs
      · exact hn t ht
    | parent =>
      -- A parent step takes the last name back; without a name it comes down to the base.
      cases names with
      | nil => exact ih hrest (hP base hbase) [] hn
      | cons name names =>
        exact ih hrest hbase names fun t ht => hn t (List.mem_cons_of_mem _ ht)

/-- Normal steps from the root are the root and names. -/
theorem normalSteps_root {parts : List Step} (h : ∀ s ∈ parts, s.IsPart) :
    ∃ names : List String, (∀ s ∈ names, IsName s) ∧
      normalSteps (.root :: parts) = place names := by
  have hroot : ∀ base : List Step, base = [.root] → keepStep base .parent = [.root] := by
    rintro base rfl
    rfl
  obtain ⟨base, kept, rfl, hkept, hfold⟩ :=
    foldl_keepStep_above hroot h rfl [] fun s hs => absurd hs List.not_mem_nil
  refine ⟨kept.reverse, fun s hs => hkept s (List.mem_reverse.mp hs), ?_⟩
  change (parts.foldl keepStep ([].map .name ++ [.root])).reverse = _
  rw [hfold, List.reverse_append, ← List.map_reverse]
  rfl

/-- The normal form of an absolute path is written from the root and names. -/
theorem normalize_of_isAbsolute {p : FilePath} (h : p.isAbsolute = true) :
    ∃ names : List String, (∀ s ∈ names, IsName s) ∧ p.normalize = ofSteps (place names) := by
  obtain ⟨names, hnames, hsteps⟩ :=
    normalSteps_root fun s (hs : s ∈ p.pieces.filterMap stepOf?) => isPart_of_mem_filterMap hs
  refine ⟨names, hnames, ?_⟩
  rw [normalize, steps_of_isAbsolute h, hsteps]

theorem steps_ofSteps_place {names : List String} (h : ∀ s ∈ names, IsName s) :
    (ofSteps (place names)).steps = place names :=
  steps_ofSteps_root (isPart_of_mem_names h)

/-- A path with the steps of its normal form. -/
def IsNormal (p : FilePath) : Prop := p.normalize.steps = p.steps

/-- Normality can be decided. -/
instance (p : FilePath) : Decidable p.IsNormal :=
  inferInstanceAs (Decidable (p.normalize.steps = p.steps))

/-- Names are kept one after another. -/
theorem foldl_keepStep_names (names : List String) (kept : List Step) :
    (names.map Step.name).foldl keepStep kept = (names.map Step.name).reverse ++ kept := by
  induction names generalizing kept with
  | nil => rfl
  | cons s rest ih =>
    rw [List.map_cons, List.foldl_cons, keepStep_name, ih, List.reverse_cons, List.append_assoc,
      List.singleton_append]

@[simp] theorem normalSteps_place (names : List String) :
    normalSteps (place names) = place names := by
  rw [normalSteps, place, List.foldl_cons]
  change (List.foldl keepStep [.root] _).reverse = _
  rw [foldl_keepStep_names, List.reverse_append, List.reverse_reverse]
  rfl

theorem isNormal_ofSteps_place {names : List String} (h : ∀ s ∈ names, IsName s) :
    (ofSteps (place names)).IsNormal := by
  rw [IsNormal, normalize, steps_ofSteps_place h, normalSteps_place, steps_ofSteps_place h]

/-! ## References -/

theorem isAbsolute_join {base : FilePath} (p : FilePath) (h : base.isAbsolute = true) :
    (base.join p).isAbsolute = true := by
  obtain ⟨rest, hrest⟩ := isAbsolute_iff.mp h
  unfold join
  split
  · assumption
  · split <;> simp [isAbsolute_iff, hrest]

/-- The directory of an absolute path with a step below the root. -/
theorem isAbsolute_directory {p : FilePath} (h : p.isAbsolute = true) (hne : p.steps ≠ [.root]) :
    p.directory.isAbsolute = true := by
  rw [steps_of_isAbsolute h] at hne
  rw [directory, steps_of_isAbsolute h]
  cases hrest : p.pieces.filterMap stepOf? with
  | nil => exact absurd (by rw [hrest]) hne
  | cons s rest => exact isAbsolute_ofSteps_root _

/-- Of the path that it is relative to, a reference uses only the steps. -/
theorem resolve_eq_of_steps_eq (p : FilePath) {base other : FilePath} (h : base.steps = other.steps)
    (hbase : base.text ≠ "") (hother : other.text ≠ "") : p.resolve base = p.resolve other := by
  simp only [resolve, directory, h, hbase, hother]

/-- A reference of an absolute path stays as written when it is absolute, and is a normal form
otherwise. -/
theorem resolve_of_isAbsolute {base : FilePath} (p : FilePath) (h : base.isAbsolute = true)
    (hne : base.steps ≠ [.root]) :
    (p.isAbsolute = true ∧ p.resolve base = p) ∨
      ∃ names : List String, (∀ s ∈ names, IsName s) ∧ p.resolve base = ofSteps (place names) := by
  by_cases hp : p.isAbsolute = true
  · exact .inl ⟨hp, by simp [resolve, hp]⟩
  · right
    have hr : p.resolve base = (base.directory.join p).normalize := by
      simp [resolve, hp, text_ne_empty_of_isAbsolute h]
    rw [hr]
    exact normalize_of_isAbsolute (isAbsolute_join p (isAbsolute_directory h hne))

end LayeredConfig.FilePath
