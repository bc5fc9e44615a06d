import LayeredConfig.Proofs.Text.Pieces

/-
  Lines of texts. Texts that are ended by line feeds, one after another, are the lines of the whole
  exactly when no line feed stands in them (`hasLines_ended_iff`). Otherwise there are more lines
  than texts, so that as many lines as texts are these texts (`HasLines.eq_texts`).

  In Markdown a line ends at a carriage return as well, alone or with the line feed behind it. There
  the texts are the lines exactly when neither of the two characters stands in them
  (`hasMarkdownLines_ended`, `HasMarkdownLines.of_ended`).
-/

namespace LayeredConfig.Text

variable {s : String} {texts lines lines' : List String}

/-- The text consists of the given lines, each ended by a line feed. -/
def HasLines (s : String) (lines : List String) : Prop := split '\n' s = lines ++ [""]

instance (s : String) (lines : List String) : Decidable (HasLines s lines) :=
  inferInstanceAs (Decidable (_ = _))

/-- Texts one after another, each ended by a line feed. -/
def ended (texts : List String) : String := String.join (texts.map (· ++ "\n"))

@[simp] theorem ended_cons (t : String) (texts : List String) :
    ended (t :: texts) = t ++ "\n" ++ ended texts := String.join_cons

/-- A text has its lines in one way only. -/
theorem HasLines.unique (h : HasLines s lines) (h' : HasLines s lines') : lines = lines' :=
  List.append_cancel_right (h.symm.trans h')

theorem HasLines.notMem {line : String} (h : HasLines s lines) (hline : line ∈ lines) :
    '\n' ∉ line.toList := by
  refine not_mem_of_mem_split (s := s) ?_
  rw [h]
  exact List.mem_append_left _ hline

theorem hasLines_ended (h : ∀ t ∈ texts, '\n' ∉ t.toList) : HasLines (ended texts) texts := by
  induction texts with
  | nil => rfl
  | cons t rest ih =>
    rw [List.forall_mem_cons] at h
    rw [HasLines, ended_cons, split_append rfl, split_of_not_mem h.1, ih h.2]
    rfl

/-- Ended texts are the lines of the whole when no line feed stands in them, and only then. -/
theorem hasLines_ended_iff : HasLines (ended texts) texts ↔ ∀ t ∈ texts, '\n' ∉ t.toList :=
  ⟨fun h _ ht => h.notMem ht, hasLines_ended⟩

/-- There are as many lines as line feeds. -/
theorem HasLines.length_eq (h : HasLines s lines) : lines.length = s.toList.count '\n' := by
  have hlength := congrArg List.length h
  rw [split, List.length_map, length_splitChars, List.length_append] at hlength
  exact (Nat.succ.inj hlength).symm

theorem count_ended (texts : List String) : (ended texts).toList.count '\n' =
    texts.length + (texts.flatMap String.toList).count '\n' := by
  induction texts with
  | nil => rfl
  | cons t rest ih =>
    have hend : "\n".toList.count '\n' = 1 := by decide
    rw [ended_cons, String.toList_append, String.toList_append, List.count_append,
      List.count_append, hend, ih, List.length_cons, List.flatMap_cons, List.count_append]
    omega

/-- Ended texts that make no more lines than they are stand on these lines. -/
theorem HasLines.eq_texts (h : HasLines (ended texts) lines)
    (hlength : lines.length = texts.length) : lines = texts := by
  have hcount := h.length_eq
  rw [hlength, count_ended] at hcount
  have hfree : '\n' ∉ texts.flatMap String.toList := by
    rw [← List.count_eq_zero]
    omega
  rw [List.mem_flatMap] at hfree
  exact h.unique (hasLines_ended fun t ht hmem => hfree ⟨t, ht, hmem⟩)

/-! ## Line ends of Markdown -/

/-- A line feed for each line end: a line feed, a carriage return, or a carriage return and the line
feed behind it. -/
def unifyLineEnds : List Char → List Char
  | [] => []
  | c :: rest =>
    if c = '\r' then
      if rest.head? = some '\n' then unifyLineEnds rest else '\n' :: unifyLineEnds rest
    else c :: unifyLineEnds rest

/-- `unifyLineEnds` on strings. -/
def withLineFeeds (s : String) : String := String.ofList (unifyLineEnds s.toList)

/-- The text consists of the given lines, each ended as lines are in Markdown. -/
def HasMarkdownLines (s : String) (lines : List String) : Prop := HasLines (withLineFeeds s) lines

instance (s : String) (lines : List String) : Decidable (HasMarkdownLines s lines) :=
  inferInstanceAs (Decidable (HasLines _ _))

/-- No line ends in the text, neither by a line feed nor by a carriage return. -/
def Unbroken (s : String) : Prop := '\n' ∉ s.toList ∧ '\r' ∉ s.toList

instance (s : String) : Decidable (Unbroken s) := inferInstanceAs (Decidable (_ ∧ _))

@[simp] theorem unbroken_append {s t : String} :
    Unbroken (s ++ t) ↔ Unbroken s ∧ Unbroken t := by
  simp only [Unbroken, String.toList_append, List.mem_append, not_or]
  exact and_and_and_comm

theorem Unbroken.getLast?_ne (h : Unbroken s) : s.toList.getLast? ≠ some '\r' :=
  fun hlast => h.2 (List.mem_of_getLast? hlast)

/-- A line feed comes from a line end. -/
theorem newline_mem_unifyLineEnds {s : List Char} :
    '\n' ∈ unifyLineEnds s ↔ '\n' ∈ s ∨ '\r' ∈ s := by
  induction s with
  | nil => simp [unifyLineEnds]
  | cons c rest ih =>
    rw [unifyLineEnds]
    split
    · next hreturn =>
      split
      · next hfeed =>
        have hmem : '\n' ∈ rest := List.mem_of_mem_head? hfeed
        simp [ih, hmem]
      · simp [hreturn]
    · next hother => simp [ih, Ne.symm hother, or_assoc]

theorem unifyLineEnds_of_notMem {s : List Char} (h : '\r' ∉ s) : unifyLineEnds s = s := by
  induction s with
  | nil => rfl
  | cons c rest ih =>
    rw [List.mem_cons, not_or] at h
    rw [unifyLineEnds, if_neg (Ne.symm h.1), ih h.2]

/-- What stands before a line feed and what stands behind it have line ends of their own, unless a
carriage return ends the former. -/
theorem unifyLineEnds_append {s : List Char} (h : s.getLast? ≠ some '\r') (t : List Char) :
    unifyLineEnds (s ++ '\n' :: t) = unifyLineEnds s ++ '\n' :: unifyLineEnds t := by
  induction s with
  | nil => rfl
  | cons c rest ih =>
    cases rest with
    | nil =>
      have hc : c ≠ '\r' := by simpa using h
      simp [unifyLineEnds, hc]
    | cons d more =>
      rw [List.getLast?_cons_cons] at h
      have hhead : (d :: more ++ '\n' :: t).head? = (d :: more).head? := rfl
      rw [List.cons_append, unifyLineEnds, unifyLineEnds, ih h, hhead]
      by_cases hc : c = '\r'
      · rw [if_pos hc, if_pos hc]
        by_cases hd : (d :: more).head? = some '\n'
        · rw [if_pos hd, if_pos hd]
        · rw [if_neg hd, if_neg hd, List.cons_append]
      · rw [if_neg hc, if_neg hc, List.cons_append]

theorem withLineFeeds_ended (h : ∀ t ∈ texts, t.toList.getLast? ≠ some '\r') :
    withLineFeeds (ended texts) = ended (texts.map withLineFeeds) := by
  induction texts with
  | nil => rfl
  | cons t rest ih =>
    rw [List.forall_mem_cons] at h
    have hsplit : (ended (t :: rest)).toList = t.toList ++ '\n' :: (ended rest).toList := by
      simp
    rw [List.map_cons, ended_cons (withLineFeeds t), ← ih h.2, withLineFeeds, hsplit,
      unifyLineEnds_append h.1, ← String.toList_inj]
    simp [withLineFeeds]

theorem map_withLineFeeds (h : ∀ t ∈ texts, Unbroken t) : texts.map withLineFeeds = texts := by
  refine (List.map_congr_left fun t ht => ?_).trans (List.map_id texts)
  rw [withLineFeeds, unifyLineEnds_of_notMem (h t ht).2, String.ofList_toList, id]

/-- Unbroken texts are lines in Markdown when they are ended by line feeds. -/
theorem hasMarkdownLines_ended (h : ∀ t ∈ texts, Unbroken t) :
    HasMarkdownLines (ended texts) texts := by
  rw [HasMarkdownLines, withLineFeeds_ended fun t ht => (h t ht).getLast?_ne, map_withLineFeeds h]
  exact hasLines_ended fun t ht => (h t ht).1

/-- Ended texts that make no more lines in Markdown than they are stand on these lines, and are not
broken. None of them may end in a carriage return, which would belong to the line feed. -/
theorem HasMarkdownLines.of_ended (h : HasMarkdownLines (ended texts) lines)
    (hlast : ∀ t ∈ texts, t.toList.getLast? ≠ some '\r') (hlength : lines.length = texts.length) :
    lines = texts ∧ ∀ t ∈ texts, Unbroken t := by
  rw [HasMarkdownLines, withLineFeeds_ended hlast] at h
  have hlines := h.eq_texts (by rw [hlength, List.length_map])
  have hunbroken : ∀ t ∈ texts, Unbroken t := by
    intro t ht
    have hfree := h.notMem (hlines ▸ List.mem_map_of_mem ht)
    rwa [withLineFeeds, String.toList_ofList, newline_mem_unifyLineEnds, not_or] at hfree
  exact ⟨hlines.trans (map_withLineFeeds hunbroken), hunbroken⟩

/-- The carriage return in front of a line feed ends no line of its own. -/
example : HasMarkdownLines "a\rb\r\nc\n" ["a", "b", "c"] := by decide

end LayeredConfig.Text
