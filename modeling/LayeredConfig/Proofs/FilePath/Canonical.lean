import LayeredConfig.Proofs.FileSystem.Place

/-
  Normal forms are canonical, for absolute and relative paths alike. Normalizing keeps steps on a
  stack. The stack leads where the steps lead from any directory (`foldl_stepFrom_normalSteps`), and
  taking it as steps again gives the same stack, whatever follows (`normalSteps_append`). Below the
  root it holds names; in a relative path it holds names above a run of parent steps
  (`normalSteps_of_written`). So the directories near the root and those far below it tell any two
  normal forms apart, and two paths have one normal form exactly when they lead to the same place
  from every directory (`normalize_canonical`).
-/

namespace LayeredConfig.FilePath

/-! ## Steps that a path is written with -/

/-- Steps as a path has them: parts, after the root or a `.` or nothing. -/
inductive Written : List Step → Prop where
  | absolute {parts : List Step} (h : ∀ s ∈ parts, s.IsPart) : Written (.root :: parts)
  | dotted {parts : List Step} (h : ∀ s ∈ parts, s.IsPart) : Written (.current :: parts)
  | relative {parts : List Step} (h : ∀ s ∈ parts, s.IsPart) : Written parts

theorem written_steps (p : FilePath) : Written p.steps := by
  have hparts : ∀ s ∈ p.pieces.filterMap stepOf?, s.IsPart :=
    fun s hs => isPart_of_mem_filterMap hs
  unfold steps
  dsimp only
  split
  · exact .absolute hparts
  · split
    · exact .dotted hparts
    · exact .relative hparts

/-- An absolute path begins with an empty piece. -/
theorem head?_pieces_of_isAbsolute {p : FilePath} (h : p.isAbsolute = true) :
    p.pieces.head? = some "" := by
  obtain ⟨rest, hrest⟩ := isAbsolute_iff.mp h
  rw [pieces, Text.split, hrest, Text.splitChars, if_pos rfl]
  rfl

/-- A path is absolute exactly when its first step is the root. -/
theorem isAbsolute_iff_head?_steps {p : FilePath} :
    p.isAbsolute = true ↔ p.steps.head? = some .root := by
  constructor
  · intro h
    rw [steps_of_isAbsolute h]
    rfl
  · intro h
    cases hrel : p.isAbsolute with
    | true => rfl
    | false =>
      have hroot : Step.root ∈ p.pieces.filterMap stepOf? := by
        simp only [steps, hrel, Bool.false_eq_true, if_false] at h
        split at h
        · cases h
        · exact List.mem_of_head? h
      exact (isPart_of_mem_filterMap hroot).elim

/-- A path whose first piece is not empty is relative. -/
theorem steps_of_head?_pieces {p : FilePath} {piece : String} (h : p.pieces.head? = some piece)
    (hne : piece ≠ "") :
    p.steps = if piece = "." then .current :: p.pieces.filterMap stepOf?
      else p.pieces.filterMap stepOf? := by
  have hrel : ¬ p.isAbsolute = true := by
    intro habs
    rw [head?_pieces_of_isAbsolute habs, Option.some.injEq] at h
    exact hne h.symm
  unfold steps
  dsimp only
  rw [if_neg hrel, h]
  simp only [Option.some.injEq]

/-- The pieces of a path that is written from a first step and parts, none of them the root. -/
theorem pieces_ofSteps_relative {first : Step} {parts : List Step} (hfirst : first ≠ .root)
    (hslash : '/' ∉ first.text.toList) (h : ∀ s ∈ parts, s.IsPart) :
    (ofSteps (first :: parts)).pieces = first.text :: parts.map Step.text := by
  have htext : ofSteps (first :: parts) = ⟨Text.join "/" ((first :: parts).map Step.text)⟩ := by
    unfold ofSteps
    split
    · next heq => exact absurd (List.cons.inj heq).1 hfirst
    · rfl
  rw [htext, pieces, Text.split_join rfl]
  · rfl
  · exact List.cons_ne_nil _ _
  · intro piece hpiece
    rw [List.map_cons, List.mem_cons] at hpiece
    rcases hpiece with rfl | hpiece
    · exact hslash
    · obtain ⟨t, ht, rfl⟩ := List.mem_map.mp hpiece
      exact slash_not_mem_text (h t ht)

theorem text_of_isPart {s : Step} (h : s.IsPart) : s.text ≠ "" ∧ s.text ≠ "." := by
  cases s with
  | root => exact h.elim
  | current => exact h.elim
  | parent => exact ⟨by decide, by decide⟩
  | name s => exact ⟨h.1, h.2.1⟩

/-- Steps as a path has them are read back from the path that they write. -/
theorem steps_ofSteps {steps : List Step} (h : Written steps) : (ofSteps steps).steps = steps := by
  cases h with
  | absolute h => exact steps_ofSteps_root h
  | @dotted parts h =>
    have hpieces : (ofSteps (.current :: parts)).pieces = "." :: parts.map Step.text :=
      pieces_ofSteps_relative (by decide) (by decide) h
    rw [steps_of_head?_pieces (by rw [hpieces]; rfl) (by decide), hpieces, List.filterMap_cons,
      filterMap_stepOf?_text h]
    rfl
  | relative h =>
    cases steps with
    | nil => rfl
    | cons s parts =>
      have hs : s.IsPart := h s List.mem_cons_self
      have hparts : ∀ t ∈ parts, t.IsPart := fun t ht => h t (List.mem_cons_of_mem _ ht)
      obtain ⟨hne, hdot⟩ := text_of_isPart hs
      have hroot : s ≠ .root := by
        rintro rfl
        exact hs
      have hpieces := pieces_ofSteps_relative hroot (slash_not_mem_text hs) hparts
      rw [steps_of_head?_pieces (by rw [hpieces]; rfl) hne, if_neg hdot, hpieces,
        ← List.map_cons, filterMap_stepOf?_text h]

/-! ## The stack of kept steps -/

/-- A stack of steps, last one first, on which each step was put without taking any back. -/
inductive Settled : List Step → Prop where
  | nil : Settled []
  | cons {kept : List Step} {s : Step} (h : Settled kept) (hs : keepStep kept s = s :: kept) :
    Settled (s :: kept)

/-- One more step leaves the stack as it is, takes a name back, or is put on it. -/
theorem keepStep_cases (kept : List Step) (s : Step) :
    keepStep kept s = kept ∨ (∃ name, kept = .name name :: keepStep kept s) ∨
      keepStep kept s = s :: kept := by
  unfold keepStep
  split
  · exact .inl rfl
  · exact .inr (.inr rfl)
  · exact .inr (.inr rfl)
  · exact .inr (.inl ⟨_, rfl⟩)
  · exact .inl rfl
  · exact .inr (.inr rfl)

theorem settled_keepStep {kept : List Step} (h : Settled kept) (s : Step) :
    Settled (keepStep kept s) := by
  rcases keepStep_cases kept s with hs | ⟨name, hs⟩ | hs
  · rw [hs]
    exact h
  · rw [hs] at h
    cases h with
    | cons h => exact h
  · rw [hs]
    exact .cons h hs

theorem settled_foldl (steps : List Step) {kept : List Step} (h : Settled kept) :
    Settled (steps.foldl keepStep kept) := by
  induction steps generalizing kept with
  | nil => exact h
  | cons s rest ih => exact ih (settled_keepStep h s)

/-- A settled stack is kept again as it is. -/
theorem foldl_keepStep_reverse {kept : List Step} (h : Settled kept) :
    kept.reverse.foldl keepStep [] = kept := by
  induction h with
  | nil => rfl
  | @cons kept s _ hs ih =>
    rw [List.reverse_cons, List.foldl_append, ih, List.foldl_cons, List.foldl_nil, hs]

/-- Of the steps before others, normalizing uses only the normal form. -/
theorem normalSteps_append (steps more : List Step) :
    normalSteps (normalSteps steps ++ more) = normalSteps (steps ++ more) := by
  have hstack := foldl_keepStep_reverse (settled_foldl steps .nil)
  rw [normalSteps, normalSteps, normalSteps, List.foldl_append, List.foldl_append, hstack]

@[simp] theorem normalSteps_normalSteps (steps : List Step) :
    normalSteps (normalSteps steps) = normalSteps steps := by
  have h := normalSteps_append steps []
  rwa [List.append_nil, List.append_nil] at h

/-! ## Where a path leads -/

/-- The place that a path leads to from a directory, by its text alone. -/
def walkFrom (p : FilePath) (dir : List String) : List String :=
  p.steps.foldl FileSystem.stepFrom dir

/-- A step put on the stack leads where the step leads after the stack. -/
theorem foldl_stepFrom_keepStep (kept : List Step) (s : Step) (dir : List String) :
    (keepStep kept s).reverse.foldl FileSystem.stepFrom dir =
      FileSystem.stepFrom (kept.reverse.foldl FileSystem.stepFrom dir) s := by
  unfold keepStep
  split
  all_goals simp [FileSystem.stepFrom]

/-- Normal steps lead where the steps lead. -/
theorem foldl_stepFrom_normalSteps (steps : List Step) (dir : List String) :
    (normalSteps steps).foldl FileSystem.stepFrom dir = steps.foldl FileSystem.stepFrom dir := by
  have hstack : ∀ kept : List Step,
      (steps.foldl keepStep kept).reverse.foldl FileSystem.stepFrom dir =
        steps.foldl FileSystem.stepFrom (kept.reverse.foldl FileSystem.stepFrom dir) := by
    induction steps with
    | nil => exact fun kept => rfl
    | cons s rest ih =>
      intro kept
      rw [List.foldl_cons, List.foldl_cons, ih, foldl_stepFrom_keepStep]
  exact hstack []

/-! ## The shape of normal forms -/

/-- The steps of a relative normal form: some parent steps, then names. -/
def ascent (ups : Nat) (names : List String) : List Step :=
  List.replicate ups .parent ++ names.map .name

/-- Normal steps of parts alone are parent steps and names. -/
theorem normalSteps_parts {parts : List Step} (h : ∀ s ∈ parts, s.IsPart) :
    ∃ names : List String, (∀ s ∈ names, IsName s) ∧
      ∃ ups, normalSteps parts = ascent ups names := by
  have hups : ∀ base : List Step, (∃ ups, base = List.replicate ups .parent) →
      ∃ ups, keepStep base .parent = List.replicate ups .parent := by
    rintro base ⟨ups, rfl⟩
    exact ⟨ups + 1, by cases ups <;> rfl⟩
  obtain ⟨base, kept, ⟨ups, rfl⟩, hkept, hfold⟩ :=
    foldl_keepStep_above hups h ⟨0, rfl⟩ [] fun s hs => absurd hs List.not_mem_nil
  refine ⟨kept.reverse, fun s hs => hkept s (List.mem_reverse.mp hs), ups, ?_⟩
  change (parts.foldl keepStep ([].map .name ++ List.replicate 0 .parent)).reverse = _
  rw [hfold, List.reverse_append, List.reverse_replicate, ← List.map_reverse]
  rfl

/-- Normal steps are the root and names, or parent steps and names. -/
theorem normalSteps_of_written {steps : List Step} (h : Written steps) :
    ∃ names : List String, (∀ s ∈ names, IsName s) ∧
      ((steps.head? = some .root ∧ normalSteps steps = place names) ∨
        (steps.head? ≠ some .root ∧ ∃ ups, normalSteps steps = ascent ups names)) := by
  cases h with
  | @absolute parts h =>
    obtain ⟨names, hnames, hparts⟩ := normalSteps_root h
    exact ⟨names, hnames, .inl ⟨rfl, hparts⟩⟩
  | @dotted parts h =>
    obtain ⟨names, hnames, hparts⟩ := normalSteps_parts h
    exact ⟨names, hnames, .inr ⟨by simp, hparts⟩⟩
  | relative h =>
    obtain ⟨names, hnames, hparts⟩ := normalSteps_parts h
    refine ⟨names, hnames, .inr ⟨fun hroot => ?_, hparts⟩⟩
    exact (h .root (List.mem_of_head? hroot)).elim

theorem written_ascent {names : List String} (h : ∀ s ∈ names, IsName s) (ups : Nat) :
    Written (ascent ups names) := by
  refine .relative fun s hs => ?_
  rcases List.mem_append.mp hs with hs | hs
  · rw [List.eq_of_mem_replicate hs]
    trivial
  · exact isPart_of_mem_names h s hs

theorem written_normalSteps {steps : List Step} (h : Written steps) :
    Written (normalSteps steps) := by
  obtain ⟨names, hnames, ⟨-, hnormal⟩ | ⟨-, ups, hnormal⟩⟩ := normalSteps_of_written h
  · rw [hnormal]
    exact .absolute (isPart_of_mem_names hnames)
  · rw [hnormal]
    exact written_ascent hnames ups

/-- The steps of a normal form are the normal steps. -/
@[simp] theorem steps_normalize (p : FilePath) : p.normalize.steps = normalSteps p.steps :=
  steps_ofSteps (written_normalSteps (written_steps p))

/-- A normal form is the root and names when the path is absolute, and otherwise parent steps and
names. -/
theorem steps_normalize_cases (p : FilePath) :
    (p.isAbsolute = true ∧ ∃ names, p.normalize.steps = place names) ∨
      (p.isAbsolute = false ∧ ∃ ups names, p.normalize.steps = ascent ups names) := by
  obtain ⟨names, -, ⟨hroot, hnormal⟩ | ⟨hroot, ups, hnormal⟩⟩ :=
    normalSteps_of_written (written_steps p)
  · exact .inl ⟨isAbsolute_iff_head?_steps.mpr hroot, names, by rw [steps_normalize, hnormal]⟩
  · rw [ne_eq, ← isAbsolute_iff_head?_steps, Bool.not_eq_true] at hroot
    exact .inr ⟨hroot, ups, names, by rw [steps_normalize, hnormal]⟩

@[simp] theorem normalize_normalize (p : FilePath) : p.normalize.normalize = p.normalize := by
  rw [normalize, steps_normalize, normalSteps_normalSteps]
  rfl

/-- A normal form is normal. -/
theorem isNormal_normalize (p : FilePath) : p.normalize.IsNormal :=
  congrArg steps (normalize_normalize p)

theorem root_not_mem_ascent (ups : Nat) (names : List String) : Step.root ∉ ascent ups names := by
  simp [ascent]

/-- A normal form is absolute exactly when the path is. -/
@[simp] theorem isAbsolute_normalize (p : FilePath) : p.normalize.isAbsolute = p.isAbsolute := by
  rcases steps_normalize_cases p with ⟨habs, names, hsteps⟩ | ⟨hrel, ups, names, hsteps⟩
  · rw [habs, isAbsolute_iff_head?_steps, hsteps]
    rfl
  · rw [hrel, ← Bool.not_eq_true, isAbsolute_iff_head?_steps, hsteps]
    exact fun hroot => root_not_mem_ascent ups names (List.mem_of_head? hroot)

/-- Paths have one normal form when their normal steps are the same. -/
theorem normalize_eq_iff {p q : FilePath} :
    p.normalize = q.normalize ↔ p.normalize.steps = q.normalize.steps := by
  constructor
  · exact congrArg steps
  · intro h
    rw [steps_normalize, steps_normalize] at h
    rw [normalize, normalize, h]

/-! ## Normal forms told apart -/

/-- From any directory, a normal form of an absolute path leads to its names. -/
@[simp] theorem foldl_stepFrom_place (names dir : List String) :
    (place names).foldl FileSystem.stepFrom dir = names := by
  rw [place, List.foldl_cons, FileSystem.stepFrom, FileSystem.foldl_stepFrom_names,
    List.nil_append]

/-- A relative normal form leads up from a directory, as far as it can, and then down. -/
theorem foldl_stepFrom_ascent (ups : Nat) (names dir : List String) :
    (ascent ups names).foldl FileSystem.stepFrom dir = dir.take (dir.length - ups) ++ names := by
  rw [ascent, List.foldl_append, FileSystem.foldl_stepFrom_names]
  congr 1
  induction ups generalizing dir with
  | zero => simp
  | succ ups ih =>
    rw [List.replicate_succ, List.foldl_cons, FileSystem.stepFrom, ih, List.dropLast_eq_take,
      List.take_take, List.length_take]
    congr 1
    omega

/-- Paths that lead to the same place from every directory have the same normal form. The root
tells their names apart, and a directory deeper than they climb tells how far they do. -/
theorem normalize_eq_of_walkFrom_eq {p q : FilePath}
    (h : ∀ dir, (∀ s ∈ dir, IsName s) → p.walkFrom dir = q.walkFrom dir) :
    p.normalize = q.normalize := by
  rw [normalize_eq_iff]
  have hwalk : ∀ depth, p.normalize.steps.foldl FileSystem.stepFrom (List.replicate depth "d") =
      q.normalize.steps.foldl FileSystem.stepFrom (List.replicate depth "d") := by
    intro depth
    rw [steps_normalize, steps_normalize, foldl_stepFrom_normalSteps, foldl_stepFrom_normalSteps]
    refine h _ fun s hs => ?_
    rw [List.eq_of_mem_replicate hs]
    exact ⟨by decide, by decide, by decide, by decide⟩
  rcases steps_normalize_cases p with ⟨-, names, hp⟩ | ⟨-, ups, names, hp⟩ <;>
    rcases steps_normalize_cases q with ⟨-, names', hq⟩ | ⟨-, ups', names', hq⟩ <;>
    simp only [hp, hq, foldl_stepFrom_place, foldl_stepFrom_ascent, List.length_replicate,
      List.take_replicate] at hwalk ⊢
  case inl.inl => rw [hwalk 0]
  case inl.inr =>
    have hlength := congrArg List.length (hwalk (ups' + names.length + 1))
    simp only [List.length_append, List.length_replicate] at hlength
    omega
  case inr.inl =>
    have hlength := congrArg List.length (hwalk (ups + names'.length + 1))
    simp only [List.length_append, List.length_replicate] at hlength
    omega
  case inr.inr =>
    have hnames : names = names' := by simpa using hwalk 0
    have hlength := congrArg List.length (hwalk (ups + ups'))
    simp only [hnames, List.length_append, List.length_replicate] at hlength
    have hups : ups = ups' := by omega
    rw [hnames, hups]

/-! ## Canonical forms -/

/-- In a normal form, only parent steps stand before a parent step, and the path is relative. -/
theorem parents_lead {p : FilePath} {before after : List Step}
    (h : p.normalize.steps = before ++ .parent :: after) :
    p.isAbsolute = false ∧ ∀ s ∈ before, s = .parent := by
  rcases steps_normalize_cases p with ⟨-, names, hp⟩ | ⟨hrel, ups, names, hp⟩
  · have hmem : Step.parent ∈ place names := by
      rw [← hp, h]
      simp
    simp [place] at hmem
  · refine ⟨hrel, ?_⟩
    rw [hp, ascent, List.append_eq_append_iff] at h
    rcases h with ⟨more, rfl, hmore⟩ | ⟨more, hmore, -⟩
    · have hmem : Step.parent ∈ names.map Step.name := by
        rw [hmore]
        simp
      simp at hmem
    · intro s hs
      have hmem : s ∈ List.replicate ups Step.parent := by
        rw [hmore]
        exact List.mem_append_left _ hs
      exact List.eq_of_mem_replicate hmem

theorem current_not_mem_steps_normalize (p : FilePath) : Step.current ∉ p.normalize.steps := by
  rcases steps_normalize_cases p with ⟨-, names, hp⟩ | ⟨-, ups, names, hp⟩ <;>
    simp [hp, place, ascent]

/-- Normalizing gives a canonical form. A normal form has no `.`, has parent steps only at the
beginning of a relative path, is absolute exactly when the path is, and is its own normal form. Any
two paths have the same normal form, as texts and as steps, exactly when they lead to the same place
from every directory. -/
theorem normalize_canonical (p q : FilePath) :
    (.current ∉ p.normalize.steps ∧
      (∀ before after, p.normalize.steps = before ++ .parent :: after →
        p.isAbsolute = false ∧ ∀ s ∈ before, s = .parent) ∧
      p.normalize.isAbsolute = p.isAbsolute ∧
      p.normalize.normalize = p.normalize) ∧
    (p.normalize = q.normalize ↔
      ∀ dir, (∀ s ∈ dir, IsName s) → p.walkFrom dir = q.walkFrom dir) ∧
    (p.normalize.sameAs q.normalize = true ↔ p.normalize = q.normalize) := by
  refine ⟨⟨current_not_mem_steps_normalize p, fun before after => parents_lead,
    isAbsolute_normalize p, normalize_normalize p⟩, ⟨?_, normalize_eq_of_walkFrom_eq⟩, ?_⟩
  · intro h dir _
    have hsteps := normalize_eq_iff.mp h
    rw [steps_normalize, steps_normalize] at hsteps
    rw [walkFrom, walkFrom, ← foldl_stepFrom_normalSteps, hsteps, foldl_stepFrom_normalSteps]
  · rw [normalize_eq_iff, sameAs, beq_iff_eq]

/-- A relative path that climbs above its start keeps the parent steps. -/
example : (FilePath.mk "./a/../../../b/./c").normalize = ⟨"../../b/c"⟩ := by decide +kernel

end LayeredConfig.FilePath
