import LayeredConfig.Proofs.Leaf.Text
import LayeredConfig.Proofs.Resolution.Origin
import LayeredConfig.Proofs.Text.Lines
import LayeredConfig.Report
import Mathlib.Data.List.Chain

/-
  Reports on values, read line by line. As plain text a report has one line for each value exactly
  when no line feed stands in a text that is reported. In Markdown it is a table with one row of
  three cells for each value exactly when no line feed stands in these texts, no carriage return,
  which ends a line and so a row there, and no bar that divides a row (`values_in_lines_iff`).
  Backticks do no harm, as a row is divided before its cells are read. Of resolved values, the names
  never do harm (`origins_in_lines_iff`), but the default formats of the program end in line feeds,
  so their reports do not stay in lines (`default_format_breaks_lines`).
-/

namespace LayeredConfig

namespace Report

open Text (HasLines HasMarkdownLines Unbroken ended unbroken_append)

/-! ## Rows of tables -/

/-- The second of two characters is no bar, or a bar that a backslash makes a text. -/
def Joined (c d : Char) : Prop := d = '|' → c = '\\'

/-- The pieces between the bars that divide a row, where `before` stands in front of it. A bar
behind a backslash divides nothing. -/
def piecesFrom (before : Char) : List Char → List (List Char)
  | [] => [[]]
  | c :: rest =>
    if c = '|' ∧ before ≠ '\\' then [] :: piecesFrom c rest
    else
      match piecesFrom c rest with
      | [] => [[c]]
      | piece :: more => (c :: piece) :: more

/-- The cells of a row. Where nothing stands in front of the first bar or behind the last one, there
is no cell. -/
def cells (row : String) : List String :=
  let pieces := piecesFrom ' ' row.toList
  let pieces := if pieces.head? = some [] then pieces.tail else pieces
  (if pieces.getLast? = some [] then pieces.dropLast else pieces).map String.ofList

variable {before : Char} {s t u v : List Char}

theorem piecesFrom_ne_nil (before : Char) (s : List Char) : piecesFrom before s ≠ [] := by
  cases s with
  | nil => exact List.cons_ne_nil _ _
  | cons c rest =>
    rw [piecesFrom]
    split
    · exact List.cons_ne_nil _ _
    · split <;> exact List.cons_ne_nil _ _

/-- A bar that stands behind no backslash divides a row. -/
theorem piecesFrom_append_bar (h : (before :: s).getLast? ≠ some '\\') (t : List Char) :
    piecesFrom before (s ++ '|' :: t) = piecesFrom before s ++ piecesFrom '|' t := by
  induction s generalizing before with
  | nil =>
    have hbefore : before ≠ '\\' := by simpa using h
    exact if_pos ⟨rfl, hbefore⟩
  | cons c rest ih =>
    rw [List.getLast?_cons_cons] at h
    rw [List.cons_append, piecesFrom, piecesFrom, ih h]
    split
    · rfl
    · cases hp : piecesFrom c rest with
      | nil => exact absurd hp (piecesFrom_ne_nil c rest)
      | cons piece more => rfl

/-- The only piece is the whole. -/
theorem piecesFrom_of_length (h : (piecesFrom before s).length = 1) :
    piecesFrom before s = [s] := by
  induction s generalizing before with
  | nil => rfl
  | cons c rest ih =>
    rw [piecesFrom] at h ⊢
    split at h
    · have hpos := List.length_pos_iff.mpr (piecesFrom_ne_nil c rest)
      rw [List.length_cons] at h
      omega
    · next hdivides =>
      rw [if_neg hdivides]
      cases hp : piecesFrom c rest with
      | nil => exact absurd hp (piecesFrom_ne_nil c rest)
      | cons piece more =>
        rw [hp] at h
        have hone : (piecesFrom c rest).length = 1 := by rw [hp]; exact h
        rw [ih hone] at hp
        cases hp
        rfl

theorem piecesFrom_eq_singleton_iff :
    piecesFrom before s = [s] ↔ (before :: s).IsChain Joined := by
  induction s generalizing before with
  | nil => simp [piecesFrom]
  | cons c rest ih =>
    rw [List.isChain_cons_cons, ← ih, piecesFrom]
    split
    · next hdivides =>
      refine iff_of_false (fun h => ?_) fun h => hdivides.2 (h.1 hdivides.1)
      cases h
    · next hdivides =>
      have hjoined : Joined before c := fun hc => Decidable.of_not_not fun hb => hdivides ⟨hc, hb⟩
      cases hp : piecesFrom c rest with
      | nil => exact absurd hp (piecesFrom_ne_nil c rest)
      | cons piece more => simp [hjoined]

/-- Texts between dividing bars are the pieces when none of them is divided itself. -/
theorem pieces_eq_iff : piecesFrom '|' s ++ piecesFrom '|' t ++ piecesFrom '|' u = [s, t, u] ↔
    piecesFrom '|' s = [s] ∧ piecesFrom '|' t = [t] ∧ piecesFrom '|' u = [u] := by
  constructor
  · intro h
    have hlength := congrArg List.length h
    rw [List.length_append, List.length_append] at hlength
    have hs := List.length_pos_iff.mpr (piecesFrom_ne_nil '|' s)
    have ht := List.length_pos_iff.mpr (piecesFrom_ne_nil '|' t)
    have hu := List.length_pos_iff.mpr (piecesFrom_ne_nil '|' u)
    simp only [List.length_cons, List.length_nil] at hlength
    exact ⟨piecesFrom_of_length (by omega), piecesFrom_of_length (by omega),
      piecesFrom_of_length (by omega)⟩
  · rintro ⟨hs, ht, hu⟩
    rw [hs, ht, hu]
    rfl

/-- The cells of a row with bars at both ends are the pieces between these. -/
theorem cells_of_piecesFrom {row : String} {inner : List (List Char)}
    (h : piecesFrom ' ' row.toList = [] :: (inner ++ [[]])) :
    cells row = inner.map String.ofList := by
  simp [cells, h]

/-! ## Texts in rows -/

/-- No bar in the text divides a row that it stands in: every one stands behind a backslash. -/
def Undivided (s : String) : Prop := s.toList.head? ≠ some '|' ∧ s.toList.IsChain Joined

theorem isChain_of_bar_notMem (h : '|' ∉ s) : s.IsChain Joined := by
  induction s with
  | nil => exact .nil
  | cons c rest ih =>
    rw [List.mem_cons, not_or] at h
    refine List.isChain_cons.mpr ⟨fun d hd heq => ?_, ih h.2⟩
    exact absurd (heq ▸ List.mem_of_mem_head? hd) h.2

theorem undivided_of_bar_notMem {s : String} (h : '|' ∉ s.toList) : Undivided s :=
  ⟨fun hhead => h (List.mem_of_mem_head? hhead), isChain_of_bar_notMem h⟩

/-- What stands around a text in a row neither divides the row nor keeps a bar from doing so. -/
theorem isChain_enclosed (hu : u.IsChain Joined) (hlast : u.getLast? = some before)
    (hbefore : before ≠ '\\') (hv : '|' ∉ v) :
    (u ++ (s ++ v)).IsChain Joined ↔ s.head? ≠ some '|' ∧ s.IsChain Joined := by
  rw [List.isChain_append, List.isChain_append, hlast]
  constructor
  · rintro ⟨-, ⟨hs, -⟩, hborder⟩
    refine ⟨fun hhead => hbefore ?_, hs⟩
    exact hborder before rfl '|' (by rw [List.head?_append, hhead]; rfl) rfl
  · rintro ⟨hhead, hs⟩
    refine ⟨hu, ⟨hs, isChain_of_bar_notMem hv, fun c _ d hd heq => ?_⟩, fun c hc d hd heq => ?_⟩
    · exact absurd (heq ▸ List.mem_of_mem_head? hd) hv
    · rw [List.head?_append] at hd
      cases hfirst : s.head? with
      | none =>
        rw [hfirst] at hd
        exact absurd (heq ▸ List.mem_of_mem_head? hd) hv
      | some e =>
        rw [hfirst] at hd hhead
        cases hd
        exact absurd (congrArg some heq) hhead

/-- A text between backticks is one cell exactly when no bar in it divides the row. -/
theorem quoted_cell_iff (s : String) :
    piecesFrom '|' (" `" ++ s ++ "` ").toList = [(" `" ++ s ++ "` ").toList] ↔ Undivided s := by
  rw [piecesFrom_eq_singleton_iff, String.toList_append, String.toList_append, List.append_assoc]
  exact isChain_enclosed (u := ['|', ' ', '`']) (by simp [Joined]) rfl (by decide) (by decide)

/-- A text between blanks is one cell exactly when no bar in it divides the row. -/
theorem plain_cell_iff (s : String) :
    piecesFrom '|' (" " ++ s ++ " ").toList = [(" " ++ s ++ " ").toList] ↔ Undivided s := by
  rw [piecesFrom_eq_singleton_iff, String.toList_append, String.toList_append, List.append_assoc]
  exact isChain_enclosed (u := ['|', ' ']) (by simp [Joined]) rfl (by decide) (by decide)

/-! ## Values as lines and as rows -/

/-- The texts of a value that are reported. -/
def texts (a : Attribution) : List String := [a.name, a.value, a.origin.text]

/-- The line of a value. -/
def line (a : Attribution) : String :=
  a.name ++ ": " ++ a.value ++ " (source: " ++ a.origin.text ++ ")"

/-- The row of a value in a table. -/
def row (a : Attribution) : String :=
  "| `" ++ a.name ++ "` | `" ++ a.value ++ "` | " ++ a.origin.text ++ " |"

/-- The cells that a row shows. -/
def rowCells (a : Attribution) : List String :=
  [" `" ++ a.name ++ "` ", " `" ++ a.value ++ "` ", " " ++ a.origin.text ++ " "]

theorem newline_notMem_line_iff {a : Attribution} :
    '\n' ∉ (line a).toList ↔ ∀ t ∈ texts a, '\n' ∉ t.toList := by
  simp [line, texts, String.toList_append]

/-- What stands around the texts of a row breaks no line. -/
theorem unbroken_row_iff {a : Attribution} : Unbroken (row a) ↔ ∀ t ∈ texts a, Unbroken t := by
  have hopen : Unbroken "| `" := by decide
  have hbetween : Unbroken "` | `" := by decide
  have hlast : Unbroken "` | " := by decide
  have hclose : Unbroken " |" := by decide
  simp [row, texts, hopen, hbetween, hlast, hclose, and_assoc]

/-- A row ends in a bar. -/
@[simp] theorem getLast?_row (a : Attribution) : (row a).toList.getLast? = some '|' := by
  have hclose : (row a).toList = ("| `" ++ a.name ++ "` | `" ++ a.value ++ "` | " ++
      a.origin.text ++ " ").toList ++ ['|'] := by
    simp [row]
  rw [hclose, List.getLast?_concat]

/-- A row has the cells that it shows exactly when no text in it divides it. -/
theorem cells_row_iff {a : Attribution} :
    cells (row a) = rowCells a ↔ ∀ t ∈ texts a, Undivided t := by
  let name := " `" ++ a.name ++ "` "
  let value := " `" ++ a.value ++ "` "
  let origin := " " ++ a.origin.text ++ " "
  have hrow : (row a).toList = [] ++ '|' :: (name.toList ++ '|' :: (value.toList ++
      '|' :: (origin.toList ++ '|' :: []))) := by
    simp [row, name, value, origin]
  have hend : ∀ s : List Char, ('|' :: (s ++ [' '])).getLast? ≠ some '\\' := by
    intro s
    rw [← List.cons_append, List.getLast?_concat]
    decide
  have hpieces : piecesFrom ' ' (row a).toList = [] :: (piecesFrom '|' name.toList ++
      piecesFrom '|' value.toList ++ piecesFrom '|' origin.toList ++ [[]]) := by
    have hname : name.toList = (" `" ++ a.name ++ "`").toList ++ [' '] := by simp [name]
    have hvalue : value.toList = (" `" ++ a.value ++ "`").toList ++ [' '] := by simp [value]
    have horigin : origin.toList = (" " ++ a.origin.text).toList ++ [' '] := by simp [origin]
    rw [hrow, piecesFrom_append_bar (by decide), piecesFrom_append_bar (hname ▸ hend _),
      piecesFrom_append_bar (hvalue ▸ hend _), piecesFrom_append_bar (horigin ▸ hend _)]
    simp [piecesFrom]
  have hcells : rowCells a =
      [name.toList, value.toList, origin.toList].map String.ofList := by
    simp only [List.map_cons, List.map_nil, String.ofList_toList]
    rfl
  rw [cells_of_piecesFrom hpieces, hcells, List.map_inj_right fun _ _ h => String.ofList_inj.mp h,
    pieces_eq_iff, quoted_cell_iff, quoted_cell_iff, plain_cell_iff]
  simp [texts]

/-- Backticks do not keep a bar from dividing the row. -/
example : cells (row ⟨"note", "a|b", .config⟩) = [" `note` ", " `a", "b` ", " config "] := by
  decide

/-! ## Reports -/

/-- The text is a table of Markdown below some lines, and the rows of its body have the given cells.
A row is a line, so it ends as lines of Markdown do. -/
def HasTable (s : String) (above : List String) (rows : List (List String)) : Prop :=
  ∃ body, HasMarkdownLines s (above ++ body) ∧ body.map cells = rows

/-- The lines above the rows of a report on values. -/
def heading (count : Nat) : List String :=
  ["# Configuration (" ++ toString count ++ ")", "", "| name | value | source |", "|---|---|---|"]

theorem notMem_toString_of_isDigit {c : Char} (h : c.isDigit = false) (count : Nat) :
    c ∉ (toString count).toList := by
  intro hmem
  rw [show (toString count).toList = Nat.toDigits 10 count from Nat.toList_repr] at hmem
  exact Bool.false_ne_true (h.symm.trans (Leaf.isDigit_of_mem_toDigits hmem))

theorem unbroken_heading {count : Nat} {l : String} (h : l ∈ heading count) : Unbroken l := by
  have hdigits : Unbroken (toString count) :=
    ⟨notMem_toString_of_isDigit (by decide) count, notMem_toString_of_isDigit (by decide) count⟩
  have htitle : Unbroken "# Configuration (" := by decide
  have hclose : Unbroken ")" := by decide
  simp only [heading, List.mem_cons, List.not_mem_nil, or_false] at h
  rcases h with rfl | rfl | rfl | rfl
  · exact unbroken_append.mpr ⟨unbroken_append.mpr ⟨htitle, hdigits⟩, hclose⟩
  · decide
  · decide
  · decide

variable {as : List Attribution}

theorem attributionLine_eq (a : Attribution) : attributionLine a = line a ++ "\n" := by
  have hend : (")\n" : String) = ")" ++ "\n" := by decide
  rw [attributionLine, line, hend, ← String.append_assoc]

theorem attributionRow_eq (a : Attribution) : attributionRow a = row a ++ "\n" := by
  have hend : (" |\n" : String) = " |" ++ "\n" := by decide
  rw [attributionRow, row, hend, ← String.append_assoc]

/-- Ended texts are written one after another. -/
theorem concat_map_eq_ended {write text : Attribution → String}
    (h : ∀ a, write a = text a ++ "\n") (as : List Attribution) :
    concat (as.map write) = ended (as.map text) := by
  rw [ended, List.map_map, List.map_congr_left fun a _ => h a]
  rfl

theorem values_text (as : List Attribution) : values as .text = ended (as.map line) :=
  concat_map_eq_ended attributionLine_eq as

theorem values_markdown (as : List Attribution) :
    values as .markdown = ended (heading as.length ++ as.map row) := by
  have hvalues : values as .markdown = "# Configuration (" ++ toString as.length ++ ")\n\n" ++
      "| name | value | source |\n|---|---|---|\n" ++ concat (as.map attributionRow) := rfl
  rw [hvalues, concat_map_eq_ended attributionRow_eq, ← String.toList_inj]
  simp [heading]

theorem hasLines_values_iff : HasLines (values as .text) (as.map line) ↔
    ∀ a ∈ as, ∀ t ∈ texts a, '\n' ∉ t.toList := by
  rw [values_text, Text.hasLines_ended_iff, List.forall_mem_map]
  exact forall₂_congr fun a _ => newline_notMem_line_iff

theorem hasTable_values_iff : HasTable (values as .markdown) (heading as.length) (as.map rowCells) ↔
    ∀ a ∈ as, ∀ t ∈ texts a, Unbroken t ∧ Undivided t := by
  rw [values_markdown]
  constructor
  · rintro ⟨body, hlines, hcells⟩
    -- as many rows as values: the lines of the report are the texts it was made of
    have hlength : body.length = as.length := by
      have h := congrArg List.length hcells
      rwa [List.length_map, List.length_map] at h
    have hlast : ∀ l ∈ heading as.length ++ as.map row, l.toList.getLast? ≠ some '\r' := by
      intro l hl
      rcases List.mem_append.mp hl with hheading | hrow
      · exact (unbroken_heading hheading).getLast?_ne
      · obtain ⟨a, -, rfl⟩ := List.mem_map.mp hrow
        rw [getLast?_row]
        decide
    obtain ⟨htexts, hunbroken⟩ := hlines.of_ended hlast (by simp [hlength])
    have hbody : body = as.map row := List.append_cancel_left htexts
    subst hbody
    intro a ha t ht
    have hrow : row a ∈ heading as.length ++ as.map row :=
      List.mem_append_right _ (List.mem_map_of_mem ha)
    rw [List.map_map, List.map_inj_left] at hcells
    exact ⟨unbroken_row_iff.mp (hunbroken _ hrow) t ht, cells_row_iff.mp (hcells a ha) t ht⟩
  · intro h
    refine ⟨as.map row, Text.hasMarkdownLines_ended fun l hl => ?_, ?_⟩
    · rcases List.mem_append.mp hl with hheading | hrow
      · exact unbroken_heading hheading
      · obtain ⟨a, ha, rfl⟩ := List.mem_map.mp hrow
        exact unbroken_row_iff.mpr fun t ht => (h a ha t ht).1
    · rw [List.map_map, List.map_inj_left]
      exact fun a ha => cells_row_iff.mpr fun t ht => (h a ha t ht).2

/-- A carriage return in a value breaks its row. -/
example : HasMarkdownLines (attributionRow ⟨"note", "a\rb", .config⟩)
    ["| `note` | `a", "b` | config |"] := by
  decide

/-- As plain text, a report has the line of each value, in order, exactly when no line feed stands
in a text that is reported. In Markdown it is a table with a row for each value, in order, and in
the row one cell for each of the three texts, exactly when neither a line feed nor a carriage return
stands in these texts and no bar in them divides a row. -/
theorem values_in_lines_iff (as : List Attribution) :
    (HasLines (values as .text) (as.map line) ↔ ∀ a ∈ as, ∀ t ∈ texts a, '\n' ∉ t.toList) ∧
    (HasTable (values as .markdown) (heading as.length) (as.map rowCells) ↔
      ∀ a ∈ as, ∀ t ∈ texts a, Unbroken t ∧ Undivided t) :=
  ⟨hasLines_values_iff, hasTable_values_iff⟩

/-! ## Reports on resolved values -/

/-- The path of a leaf breaks no line and divides no row. -/
theorem path_in_cell {f : Field} (hf : f ∈ Resolution.fields) :
    Unbroken f.path ∧ Undivided f.path := by
  obtain ⟨leaf, rfl⟩ := SettingLeaf.mem_metadata_iff.mp hf
  refine And.imp_right undivided_of_bar_notMem ?_
  cases leaf with
  | own s h =>
    have hfeed : '\n' ∉ s.key.toList := s.notMem_key (by decide) (by decide)
    have hreturn : '\r' ∉ s.key.toList := s.notMem_key (by decide) (by decide)
    exact ⟨⟨hfeed, hreturn⟩, s.notMem_key (by decide) (by decide)⟩
  | part p => cases p <;> decide

/-- A report on all values that are resolved is made of lines, or is a table, exactly when the
values and the names of files allow it. -/
theorem origins_in_lines_iff (r : Resolution) :
    (HasLines (values r.origins .text) (r.origins.map line) ↔
      ∀ a ∈ r.origins, ∀ t ∈ [a.value, a.origin.text], '\n' ∉ t.toList) ∧
    (HasTable (values r.origins .markdown) (heading r.origins.length) (r.origins.map rowCells) ↔
      ∀ a ∈ r.origins, ∀ t ∈ [a.value, a.origin.text], Unbroken t ∧ Undivided t) := by
  have hname : ∀ a ∈ r.origins, Unbroken a.name ∧ Undivided a.name := by
    intro a ha
    obtain ⟨f, hf, rfl⟩ := Resolution.mem_origins_iff.mp ha
    change Unbroken f.path ∧ Undivided f.path
    exact path_in_cell hf
  rw [hasLines_values_iff, hasTable_values_iff]
  constructor
  · refine forall₂_congr fun a ha => ?_
    rw [texts, List.forall_mem_cons, and_iff_right (hname a ha).1.1]
  · refine forall₂_congr fun a ha => ?_
    rw [texts, List.forall_mem_cons, and_iff_right (hname a ha)]

/-- The leaf of a format. -/
def formatLeaf : Field := (SettingLeaf.own .formatError (by decide)).field

/-- What is said of the format by default. -/
def defaultFormat : Attribution := ⟨"format_error", "Error: %s\n", .default⟩

theorem origin?_defaultFormat (fs : FileSystem) (home : Option FilePath) :
    (Resolution.load fs home [] .inheritance []).origin? "format_error" = some defaultFormat := by
  have hnode : Settings.default.toValue.get? formatLeaf.path =
      some (Leaf.text "Error: %s\n").toValue :=
    (SettingLeaf.get?_own _ _ _).trans (Settings.field?_toValue _ .formatError)
  have hvalue : (formatLeaf.refresh Settings.default.toValue).value = some (.text "Error: %s\n") :=
    Resolution.value_refresh_of_get? (SettingLeaf.field_mem _) rfl hnode
  refine (Resolution.origin?_eq _ (f := formatLeaf) (SettingLeaf.field_mem _)).trans ?_
  rw [Resolution.settings_load_nil, Attribution.one, if_pos rfl, Field.valueText, hvalue]
  rfl

/-- The default of a format ends in a line feed. So the report on it has two lines, and there is no
row of three cells in the table. -/
theorem default_format_breaks_lines :
    ∃ a, (Resolution.load ⟨[], []⟩ none [] .inheritance []).origin? "format_error" = some a ∧
      HasLines (values [a] .text) ["format_error: Error: %s", " (source: default)"] ∧
      ¬ HasLines (values [a] .text) [line a] ∧
      ¬ HasTable (values [a] .markdown) (heading 1) [rowCells a] := by
  have hbroken : ¬ ∀ a ∈ [defaultFormat], ∀ t ∈ texts a, '\n' ∉ t.toList := by decide
  refine ⟨defaultFormat, origin?_defaultFormat _ _, by decide, fun h => ?_, fun h => ?_⟩
  · exact hbroken (hasLines_values_iff.mp h)
  · exact hbroken fun a ha t ht => (hasTable_values_iff.mp h a ha t ht).1.1

end Report

end LayeredConfig
