import LayeredConfig.Proofs.FilePath.Canonical

/-
  References from a file. Joining puts the steps of a reference after those of a directory
  (`normalSteps_join`), so of the directory only its normal form matters (`normalize_join`). The
  last name of a path stays last in its normal form, and what is before it has the normal steps of
  the directory (`steps_directory_normalize`). So a relative reference leads to the same path
  however the file that holds it is spelled (`resolve_ignores_spelling`).
-/

namespace LayeredConfig.FilePath

/-! ## Joining -/

theorem text_ne_empty {p : FilePath} (h : p ≠ ⟨""⟩) : p.text ≠ "" := by
  intro hempty
  rw [← hempty] at h
  exact h rfl

/-- A relative path below a base without a text is itself. -/
theorem empty_join {p : FilePath} (hp : p.isAbsolute = false) : join ⟨""⟩ p = p := by
  simp [join, hp]

/-- The pieces of two texts with a slash between them. -/
theorem pieces_append (s t : String) :
    (FilePath.mk (s ++ "/" ++ t)).pieces = (FilePath.mk s).pieces ++ (FilePath.mk t).pieces :=
  Text.split_append rfl s t

/-- A longer text is absolute exactly when its beginning is. -/
theorem isAbsolute_append {s : String} (hs : s ≠ "") (t : String) :
    (FilePath.mk (s ++ t)).isAbsolute = (FilePath.mk s).isAbsolute := by
  rw [Bool.eq_iff_iff, isAbsolute_iff, isAbsolute_iff]
  simp only [String.toList_append]
  cases hchars : s.toList with
  | nil => exact absurd (String.toList_eq_nil_iff.mp hchars) hs
  | cons c rest => simp

/-- A path that begins like another one and whose pieces stand for more steps. -/
theorem steps_eq_append {p q : FilePath} {more : List Step} (habs : p.isAbsolute = q.isAbsolute)
    (hhead : p.pieces.head? = q.pieces.head?)
    (hparts : p.pieces.filterMap stepOf? = q.pieces.filterMap stepOf? ++ more) :
    p.steps = q.steps ++ more := by
  simp only [steps, habs, hhead, hparts]
  split
  · rfl
  · split <;> rfl

theorem head?_pieces_append (t : String) (more : List String) :
    ((FilePath.mk t).pieces ++ more).head? = (FilePath.mk t).pieces.head? := by
  cases ht : (FilePath.mk t).pieces with
  | nil => exact absurd ht (Text.split_ne_nil '/' t)
  | cons piece rest => rfl

/-- A text that ends with a slash is one without it and the slash. -/
theorem text_of_getLast?_slash {s : String} (h : s.toList.getLast? = some '/') :
    ∃ t : String, s = t ++ "/" := by
  obtain ⟨front, hfront⟩ := List.getLast?_eq_some_iff.mp h
  refine ⟨String.ofList front, ?_⟩
  rw [← String.toList_inj, String.toList_append, String.toList_ofList, hfront]
  rfl

/-- Below a base with a text, the steps of a relative path follow those of the base. -/
theorem steps_join {base p : FilePath} (hbase : base.text ≠ "") (hp : p.isAbsolute = false) :
    (base.join p).steps = base.steps ++ p.pieces.filterMap stepOf? := by
  unfold join
  rw [if_neg (by simp [hp])]
  split
  · next hslash =>
    -- The slash that ends the base separates already; it left an empty piece, which is no step.
    obtain ⟨t, ht⟩ := text_of_getLast?_slash (hslash.resolve_left hbase)
    have hpieces : (FilePath.mk (base.text ++ p.text)).pieces =
        (FilePath.mk t).pieces ++ p.pieces := by
      rw [ht]
      exact pieces_append t p.text
    have hbasePieces : base.pieces = (FilePath.mk t).pieces ++ [""] := by
      have h := pieces_append t ""
      rw [String.append_empty, ← ht] at h
      exact h
    refine steps_eq_append (isAbsolute_append hbase _) ?_ ?_
    · rw [hpieces, hbasePieces, head?_pieces_append, head?_pieces_append]
    · rw [hpieces, hbasePieces, List.filterMap_append, List.filterMap_append]
      simp [stepOf?]
  · have hpieces := pieces_append base.text p.text
    rw [String.append_assoc] at hpieces ⊢
    refine steps_eq_append (isAbsolute_append hbase _) ?_ ?_
    · rw [hpieces]
      exact head?_pieces_append base.text p.pieces
    · rw [hpieces, List.filterMap_append]

/-- The steps of a relative path, with or without a `.` in front. -/
theorem foldl_keepStep_relative_steps {p : FilePath} (hp : p.isAbsolute = false)
    (kept : List Step) :
    p.steps.foldl keepStep kept = (p.pieces.filterMap stepOf?).foldl keepStep kept := by
  have hdot : keepStep kept .current = kept := by cases kept <;> rfl
  unfold steps
  dsimp only
  rw [if_neg (by simp [hp])]
  split
  · rw [List.foldl_cons, hdot]
  · rfl

/-- Joining puts the steps of a relative path after those of the base. -/
theorem normalSteps_join (base : FilePath) {p : FilePath} (hp : p.isAbsolute = false) :
    normalSteps (base.join p).steps = normalSteps (base.steps ++ p.steps) := by
  by_cases hbase : base = ⟨""⟩
  · rw [hbase, empty_join hp]
    rfl
  · rw [steps_join (text_ne_empty hbase) hp, normalSteps, normalSteps, List.foldl_append,
      List.foldl_append, foldl_keepStep_relative_steps hp]

/-- Of the base of a path, its normal form uses only the normal form. -/
theorem normalize_join (base p : FilePath) :
    (base.join p).normalize = (base.normalize.join p).normalize := by
  cases hp : p.isAbsolute with
  | true => simp only [join, hp, if_true]
  | false =>
    rw [normalize, normalize, normalSteps_join base hp, normalSteps_join base.normalize hp,
      steps_normalize, normalSteps_append]

/-! ## References -/

theorem written_dropLast {steps : List Step} (h : Written steps) : Written steps.dropLast := by
  have hparts : ∀ {parts : List Step}, (∀ s ∈ parts, s.IsPart) → ∀ s ∈ parts.dropLast, s.IsPart :=
    fun h s hs => h s (List.dropLast_subset _ hs)
  cases h with
  | @absolute parts h =>
    cases parts with
    | nil => exact .relative fun s hs => absurd hs List.not_mem_nil
    | cons s rest => exact .absolute (hparts h)
  | @dotted parts h =>
    cases parts with
    | nil => exact .relative fun s hs => absurd hs List.not_mem_nil
    | cons s rest => exact .dotted (hparts h)
  | relative h => exact .relative (hparts h)

@[simp] theorem steps_directory (p : FilePath) : p.directory.steps = p.steps.dropLast :=
  steps_ofSteps (written_dropLast (written_steps p))

/-- The last name of steps stays last in their normal form. -/
theorem normalSteps_append_name (steps : List Step) (name : String) :
    normalSteps (steps ++ [.name name]) = normalSteps steps ++ [.name name] := by
  rw [normalSteps, List.foldl_append, List.foldl_cons, List.foldl_nil, keepStep_name,
    List.reverse_cons]
  rfl

/-- The directory of a normal form has the normal form of the directory. -/
theorem steps_directory_normalize {p : FilePath} {name : String}
    (h : p.steps.getLast? = some (.name name)) :
    p.normalize.directory.steps = normalSteps p.directory.steps := by
  obtain ⟨front, hfront⟩ := List.getLast?_eq_some_iff.mp h
  rw [steps_directory, steps_directory, steps_normalize, hfront, normalSteps_append_name,
    List.dropLast_concat, List.dropLast_concat]

/-- A relative reference of a file is joined to the directory of the file. -/
theorem resolve_of_relative {r b : FilePath} (hr : r.isAbsolute = false) (hb : b.steps ≠ []) :
    r.resolve b = (b.directory.join r).normalize := by
  have hne : b ≠ ⟨""⟩ := by
    rintro rfl
    exact hb rfl
  simp [resolve, hr, text_ne_empty hne]

/-- Of a directory that a relative reference is joined to, only the normal steps count. -/
theorem normalize_join_congr {d e r : FilePath} (h : normalSteps d.steps = normalSteps e.steps) :
    (d.join r).normalize = (e.join r).normalize := by
  rw [normalize_join d, normalize_join e, normalize, normalize, normalize, normalize, h]

theorem isAbsolute_join_of_relative (base : FilePath) {p : FilePath} (hp : p.isAbsolute = false) :
    (base.join p).isAbsolute = base.isAbsolute := by
  by_cases hbase : base = ⟨""⟩
  · rw [hbase, empty_join hp, hp]
    rfl
  · unfold join
    rw [if_neg (by simp [hp])]
    split
    · exact isAbsolute_append (text_ne_empty hbase) p.text
    · rw [String.append_assoc]
      exact isAbsolute_append (text_ne_empty hbase) ("/" ++ p.text)

/-- A path that ends with a name is absolute exactly when its directory is. -/
theorem isAbsolute_directory_eq {p : FilePath} {name : String}
    (h : p.steps.getLast? = some (.name name)) : p.directory.isAbsolute = p.isAbsolute := by
  obtain ⟨front, hfront⟩ := List.getLast?_eq_some_iff.mp h
  rw [Bool.eq_iff_iff, isAbsolute_iff_head?_steps, isAbsolute_iff_head?_steps, steps_directory,
    hfront, List.dropLast_concat]
  cases front with
  | nil => simp
  | cons s rest => simp

/-- A relative reference does not depend on the spelling of the file that holds it. Resolved from a
path with a name at its end, it is the same as resolved from the normal form of that path. It is a
normal form, absolute exactly when the path is, and the normal form of the reference joined to the
directory of the path, however that directory is written. In general, of a path that anything is
joined to, normalizing uses only the normal form. -/
theorem resolve_ignores_spelling (r b : FilePath) (name : String) (hr : r.isAbsolute = false)
    (hb : b.steps.getLast? = some (.name name)) :
    r.resolve b = r.resolve b.normalize ∧
      (r.resolve b).normalize = r.resolve b ∧
      (r.resolve b).isAbsolute = b.isAbsolute ∧
      b.directory.steps = b.steps.dropLast ∧
      (∀ d : FilePath, d.steps = b.directory.steps → r.resolve b = (d.join r).normalize) ∧
      ∀ a p : FilePath, (a.join p).normalize = (a.normalize.join p).normalize := by
  obtain ⟨front, hfront⟩ := List.getLast?_eq_some_iff.mp hb
  have hresolve : r.resolve b = (b.directory.join r).normalize :=
    resolve_of_relative hr (by simp [hfront])
  have hnormal : r.resolve b.normalize = (b.normalize.directory.join r).normalize :=
    resolve_of_relative hr (by rw [steps_normalize, hfront, normalSteps_append_name]; simp)
  refine ⟨?_, ?_, ?_, steps_directory b, ?_, normalize_join⟩
  · rw [hresolve, hnormal]
    apply normalize_join_congr
    rw [steps_directory_normalize hb, normalSteps_normalSteps]
  · rw [hresolve, normalize_normalize]
  · rw [hresolve, isAbsolute_normalize, isAbsolute_join_of_relative _ hr,
      isAbsolute_directory_eq hb]
  · intro d hd
    rw [hresolve]
    apply normalize_join_congr
    rw [hd]

/-- A reference that climbs out of a directory which is itself reached through another one. -/
theorem resolve_ignores_spelling_detour :
    (FilePath.mk "../shared/./base.yml").isAbsolute = false ∧
      (FilePath.mk "./proj//x/../conf/child.yml").steps.getLast? = some (.name "child.yml") ∧
      (FilePath.mk "../shared/./base.yml").resolve ⟨"./proj//x/../conf/child.yml"⟩ =
        (FilePath.mk "../shared/./base.yml").resolve
          (FilePath.mk "./proj//x/../conf/child.yml").normalize ∧
      (FilePath.mk "../shared/./base.yml").resolve ⟨"./proj//x/../conf/child.yml"⟩ =
        ⟨"proj/shared/base.yml"⟩ := by
  have hr : (FilePath.mk "../shared/./base.yml").isAbsolute = false := by decide
  have hb : (FilePath.mk "./proj//x/../conf/child.yml").steps.getLast? =
      some (.name "child.yml") := by decide +kernel
  exact ⟨hr, hb, (resolve_ignores_spelling _ _ _ hr hb).1, by decide +kernel⟩

end LayeredConfig.FilePath
