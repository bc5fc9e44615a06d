import LayeredConfig.Environment
import LayeredConfig.Proofs.Settings.Leaves
import LayeredConfig.Proofs.Text.Words
import Mathlib.Data.List.Forall2

/-
  The variables of paths in snake case, which are words in lower case with one underscore or one
  dot between each two (`SnakePath`). The variable of such a path is the path in capitals with
  underscores for its dots, so two of them share a variable exactly when they differ in nothing but
  their separators (`variables_of_snakePaths`). The settings have such paths, and no two of their
  leaves share a variable (`SettingLeaf.variableOf_injective`).
-/

namespace LayeredConfig

open Text

namespace Environment

variable {s t : List Char} {p q : String}

/-! ## Separators -/

/-- An underscore stands between the words of a name, a dot between names. -/
def IsSeparator (c : Char) : Prop := c = '_' ∨ c = '.'

instance (c : Char) : Decidable (IsSeparator c) := inferInstanceAs (Decidable (_ ∨ _))

/-- The texts differ at most in which separators they have. -/
def AgreeButSeparators : List Char → List Char → Prop :=
  List.Forall₂ fun c d => c = d ∨ IsSeparator c ∧ IsSeparator d

/-- A character, with an underscore for the dot. -/
def underscored (c : Char) : Char := if c = '.' then '_' else c

theorem underscored_of_separator {c : Char} (h : IsSeparator c) : underscored c = '_' := by
  rcases h with rfl | rfl <;> rfl

theorem underscored_of_not_separator {c : Char} (h : ¬ IsSeparator c) : underscored c = c :=
  if_neg fun hdot => h (.inr hdot)

theorem isSeparator_of_underscored {c : Char} (h : underscored c = '_') : IsSeparator c := by
  by_contra hc
  rw [underscored_of_not_separator hc] at h
  exact hc (.inl h)

theorem underscored_eq_iff {c d : Char} :
    underscored c = underscored d ↔ c = d ∨ IsSeparator c ∧ IsSeparator d := by
  constructor
  · intro heq
    by_cases hc : IsSeparator c
    · rw [underscored_of_separator hc] at heq
      exact .inr ⟨hc, isSeparator_of_underscored heq.symm⟩
    · rw [underscored_of_not_separator hc] at heq
      have hd : ¬ IsSeparator d := fun hd => hc (.inl (heq.trans (underscored_of_separator hd)))
      exact .inl (heq.trans (underscored_of_not_separator hd))
  · rintro (rfl | ⟨hc, hd⟩)
    · rfl
    · rw [underscored_of_separator hc, underscored_of_separator hd]

/-- Texts differ in nothing but their separators when they are one text with underscores. -/
theorem agreeButSeparators_iff :
    AgreeButSeparators s t ↔ s.map underscored = t.map underscored := by
  rw [AgreeButSeparators, ← List.forall₂_eq_eq_eq, List.forall₂_map_left_iff,
    List.forall₂_map_right_iff]
  simp only [underscored_eq_iff]

instance (s t : List Char) : Decidable (AgreeButSeparators s t) :=
  decidable_of_iff _ agreeButSeparators_iff.symm

theorem map_underscored_of_notMem (h : '.' ∉ s) : s.map underscored = s := by
  refine (List.map_congr_left fun c hc => ?_).trans (List.map_id s)
  exact if_neg fun hdot : c = '.' => h (hdot ▸ hc)

/-! ## Paths in snake case -/

/-- Words in lower case with one separator between each two. -/
inductive SnakePath : List Char → Prop
  | word {w : List Char} (hw : LowerWord w) : SnakePath w
  | cons {w rest : List Char} {sep : Char} (hw : LowerWord w) (hsep : IsSeparator sep)
      (hrest : SnakePath rest) : SnakePath (w ++ sep :: rest)

theorem not_isSeparator_of_isLowerWordChar {c : Char} (hc : isLowerWordChar c = true) :
    ¬ IsSeparator c := by
  rintro (rfl | rfl) <;> exact absurd hc (by decide)

theorem separator_notMem_of_lowerWord {sep : Char} (h : LowerWord s) (hsep : IsSeparator sep) :
    sep ∉ s :=
  fun hmem => not_isSeparator_of_isLowerWordChar (h.2 sep hmem) hsep

theorem splitChars_of_lowerWord (h : LowerWord s) : splitChars '_' (s.map underscored) = [s] := by
  rw [map_underscored_of_notMem (separator_notMem_of_lowerWord h (.inr rfl)),
    splitChars_of_not_mem (separator_notMem_of_lowerWord h (.inl rfl))]

/-- Pieces that are words in lower case make a path in snake case. What stands before the first
separator of `s` belongs to the word that `w` begins. -/
theorem snakePath_of_pieces {w : List Char} (hw : '_' ∉ w)
    (h : ∀ piece ∈ splitChars '_' (w ++ s.map underscored), LowerWord piece) :
    SnakePath (w ++ s) := by
  induction s generalizing w with
  | nil =>
    rw [List.map_nil, List.append_nil, splitChars_of_not_mem hw, List.forall_mem_singleton] at h
    rw [List.append_nil]
    exact .word h
  | cons c rest ih =>
    by_cases hc : IsSeparator c
    · rw [List.map_cons, underscored_of_separator hc, splitChars_append, splitChars_of_not_mem hw,
        List.singleton_append, List.forall_mem_cons] at h
      exact .cons h.1 hc (ih (w := []) List.not_mem_nil h.2)
    · rw [List.map_cons, underscored_of_not_separator hc, List.append_cons] at h
      rw [List.append_cons]
      refine ih ?_ h
      rw [List.mem_append, List.mem_singleton]
      rintro (hmem | rfl)
      · exact hw hmem
      · exact hc (.inl rfl)

/-- A path is in snake case when the pieces between its separators are words in lower case. -/
theorem snakePath_iff :
    SnakePath s ↔ ∀ piece ∈ splitChars '_' (s.map underscored), LowerWord piece := by
  refine ⟨fun h => ?_, fun h => snakePath_of_pieces (w := []) List.not_mem_nil h⟩
  induction h with
  | word hw =>
    rw [splitChars_of_lowerWord hw, List.forall_mem_singleton]
    exact hw
  | cons hw hsep _ ih =>
    rw [List.map_append, List.map_cons, underscored_of_separator hsep, splitChars_append,
      splitChars_of_lowerWord hw, List.singleton_append, List.forall_mem_cons]
    exact ⟨hw, ih⟩

instance : DecidablePred SnakePath := fun _ => decidable_of_iff _ snakePath_iff.symm

theorem separator_or_isLowerWordChar (h : SnakePath s) {c : Char} (hc : c ∈ s) :
    IsSeparator c ∨ isLowerWordChar c = true := by
  induction h with
  | word hw => exact .inr (hw.2 c hc)
  | cons hw hsep _ ih =>
    rcases List.mem_append.mp hc with hword | hmore
    · exact .inr (hw.2 c hword)
    · rcases List.mem_cons.mp hmore with rfl | hrest
      · exact .inl hsep
      · exact ih hrest

/-! ## Which paths share a variable -/

/-- The variable of a path in snake case is the path in capitals with underscores. -/
theorem variableOf_of_snakePath (h : SnakePath p.toList) :
    variableOf p = start ++ p.map fun c => (underscored c).toUpper := by
  have hchars : (replaceChar '.' '_' p).toList = p.toList.map underscored :=
    toList_replaceChar '.' '_' p
  rw [variableOf, upperSnake_of_lowerWords (hchars ▸ snakePath_iff.mp h), String.append_right_inj,
    ← String.toList_inj, String.toList_map, hchars, String.toList_map, List.map_map]
  rfl

/-- Capitals do not hide which path with underscores they were made from. -/
theorem map_toLower_of_snakePath (h : SnakePath s) :
    (s.map fun c => (underscored c).toUpper).map Char.toLower = s.map underscored := by
  rw [List.map_map]
  refine List.map_congr_left fun c hc => ?_
  rw [Function.comp_apply]
  rcases separator_or_isLowerWordChar h hc with hsep | hword
  · rw [underscored_of_separator hsep]
    rfl
  · rw [underscored_of_not_separator (not_isSeparator_of_isLowerWordChar hword)]
    exact forall_isLowerWordChar (P := fun c => c.toUpper.toLower = c) (by decide +kernel) hword

theorem variableOf_eq_iff (hp : SnakePath p.toList) (hq : SnakePath q.toList) :
    variableOf p = variableOf q ↔ AgreeButSeparators p.toList q.toList := by
  rw [variableOf_of_snakePath hp, variableOf_of_snakePath hq, String.append_right_inj,
    ← String.toList_inj, String.toList_map, String.toList_map, agreeButSeparators_iff]
  constructor
  · intro h
    rw [← map_toLower_of_snakePath hp, h, map_toLower_of_snakePath hq]
  · intro h
    have hcapitals := congrArg (List.map Char.toUpper) h
    rw [List.map_map, List.map_map] at hcapitals
    exact hcapitals

/-- The variable of a path in snake case is the path in capitals, after the fixed beginning and
with an underscore for every dot. Two such paths have one variable if and only if they differ in
nothing but dots in place of underscores. -/
theorem variables_of_snakePaths (p q : String) (hp : SnakePath p.toList)
    (hq : SnakePath q.toList) :
    variableOf p = "BKPDIR_" ++ p.map (fun c => if c = '.' then '_' else c.toUpper) ∧
      (variableOf p = variableOf q ↔ AgreeButSeparators p.toList q.toList) := by
  refine ⟨?_, variableOf_eq_iff hp hq⟩
  rw [variableOf_of_snakePath hp]
  congr 2
  funext c
  rw [underscored, apply_ite Char.toUpper]
  rfl

/-- A dot and an underscore change places. -/
theorem variables_of_snakePaths_swapped :
    SnakePath "verification.sha_256".toList ∧ SnakePath "verification_sha.256".toList ∧
      variableOf "verification.sha_256" = "BKPDIR_VERIFICATION_SHA_256" ∧
      variableOf "verification.sha_256" = variableOf "verification_sha.256" := by
  have hp : SnakePath "verification.sha_256".toList := by decide
  have hq : SnakePath "verification_sha.256".toList := by decide
  obtain ⟨hname, hshared⟩ := variables_of_snakePaths _ _ hp hq
  refine ⟨hp, hq, hname.trans ?_, hshared.mpr (by decide)⟩
  rw [← String.toList_inj, String.toList_append, String.toList_map]
  decide

end Environment

/-! ## Variables of the settings -/

open Environment

/-- A key is a path in snake case. -/
theorem Setting.snakePath_key (s : Setting) : SnakePath s.key.toList := by
  have h : ∀ s ∈ Setting.all, SnakePath s.key.toList := by decide +kernel
  exact h s s.mem_all

namespace SettingLeaf

/-- The path of a leaf is in snake case. -/
theorem snakePath_path (leaf : SettingLeaf) : SnakePath leaf.field.path.toList := by
  cases leaf with
  | own s _ => exact s.snakePath_key
  | part p => cases p <;> decide +kernel

theorem not_agree_key_part (s : Setting) (p : VerificationSettings.Part) :
    ¬ AgreeButSeparators s.key.toList (part p).field.path.toList := by
  have hpart : ∃ key, (part p).field.path.toList.map underscored = key.toList ∧
      Setting.ofKey? key = none := by
    cases p with
    | verify => exact ⟨"verification_verify_on_create", by decide +kernel, by decide +kernel⟩
    | checksum => exact ⟨"verification_checksum_algorithm", by decide +kernel, by decide +kernel⟩
  obtain ⟨key, hunderscored, hnone⟩ := hpart
  intro h
  have hkeys := agreeButSeparators_iff.mp h
  rw [map_underscored_of_notMem s.dot_notMem_key, hunderscored, String.toList_inj] at hkeys
  rw [← hkeys, Setting.ofKey?_key] at hnone
  cases hnone

/-- The variable tells the leaf. -/
theorem variableOf_injective {leaf leaf' : SettingLeaf}
    (h : variableOf leaf.field.path = variableOf leaf'.field.path) : leaf = leaf' := by
  rw [variableOf_eq_iff leaf.snakePath_path leaf'.snakePath_path] at h
  cases leaf with
  | own s hs =>
    cases leaf' with
    | own t ht =>
      have hkeys := agreeButSeparators_iff.mp h
      rw [field, field, map_underscored_of_notMem s.dot_notMem_key,
        map_underscored_of_notMem t.dot_notMem_key, String.toList_inj] at hkeys
      obtain rfl := Setting.key_injective hkeys
      rfl
    | part q => exact absurd h (not_agree_key_part s q)
  | part p =>
    cases leaf' with
    | own t ht =>
      refine absurd (agreeButSeparators_iff.mpr ?_) (not_agree_key_part t p)
      exact (agreeButSeparators_iff.mp h).symm
    | part q =>
      have hparts : p = q := by
        revert h
        cases p <;> cases q <;> decide +kernel
      rw [hparts]

end SettingLeaf

end LayeredConfig
