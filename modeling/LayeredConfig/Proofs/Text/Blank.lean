import LayeredConfig.Text.Blank
import Mathlib.Data.List.DropRight

/-
  Trimmed texts. No blank stands at either end of what trimming gives (`trimmed_trimChars`), which
  is a part of the text (`trimChars_infix`), and a text that is trimmed already stays as it is
  (`trimChars_of_trimmed`).
-/

namespace LayeredConfig.Text

/-- No blank stands at either end of the text. -/
def Trimmed (s : List Char) : Prop :=
  (∀ c ∈ s.head?, isBlank c = false) ∧ ∀ c ∈ s.getLast?, isBlank c = false

variable {s : List Char}

theorem trimmed_of_forall (h : ∀ c ∈ s, isBlank c = false) : Trimmed s :=
  ⟨fun c hc => h c (List.mem_of_mem_head? hc), fun c hc => h c (List.mem_of_getLast? hc)⟩

theorem trimRight_eq_rdropWhile (s : List Char) : trimRight s = s.rdropWhile isBlank := rfl

/-- Trimming gives a part of the text. -/
theorem trimChars_infix (s : List Char) : trimChars s <:+: s := by
  have hright : trimChars s <+: s.dropWhile isBlank := List.rdropWhile_prefix isBlank _
  exact hright.isInfix.trans (List.dropWhile_suffix isBlank).isInfix

/-- No blank is left at either end. -/
theorem trimmed_trimChars (s : List Char) : Trimmed (trimChars s) := by
  constructor
  · intro c hc
    -- what stands first now stood first once the blanks in front were gone
    obtain ⟨rest, hrest⟩ : trimChars s <+: s.dropWhile isBlank := List.rdropWhile_prefix isBlank _
    have hfirst : (s.dropWhile isBlank).head? = some c := by
      rw [← hrest, List.head?_append, hc]
      rfl
    have hblank := List.head?_dropWhile_not isBlank s
    rw [hfirst] at hblank
    exact hblank
  · intro c hc
    rw [trimChars, trimRight_eq_rdropWhile] at hc
    obtain ⟨hne, rfl⟩ := List.mem_getLast?_eq_getLast hc
    simpa using List.rdropWhile_last_not isBlank (s.dropWhile isBlank) hne

/-- A text that is trimmed already stays as it is. -/
theorem trimChars_of_trimmed (h : Trimmed s) : trimChars s = s := by
  have hleft : s.dropWhile isBlank = s := by
    cases s with
    | nil => rfl
    | cons c rest => exact List.dropWhile_cons_of_neg (by simp [h.1 c rfl])
  rw [trimChars, hleft, trimRight_eq_rdropWhile, List.rdropWhile_eq_self_iff]
  intro hne
  simp [h.2 _ (List.getLast?_eq_some_getLast hne)]

end LayeredConfig.Text
