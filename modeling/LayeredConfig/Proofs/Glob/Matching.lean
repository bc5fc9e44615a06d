import LayeredConfig.Field.Selection
import LayeredConfig.Proofs.Glob.Expression

/-
  What globs match. The rule is stated for the glob as it is written (`GlobMatches`). Between it
  and the matchers stands a list of atoms, each of which takes one run of characters
  (`Pattern.Spells`): a glob matches what its atoms spell (`globMatches_iff_spells`), the expression
  that the source of a pattern is read as is found where the atoms spell the whole text
  (`foundIn_iff_spells`), and the rows of the matcher answer for every ending of the text whether
  the atoms spell it (`row_matchRow`). So reading the source as a regular expression, running the
  matcher and selecting fields all give what the rule says (`glob_meaning`).
-/

namespace LayeredConfig

/-- A text matches a glob as a whole: a star stands for any run of characters without a line
break, a question mark for one such character, and every other character for itself. -/
inductive GlobMatches : List Char → List Char → Prop where
  | nil : GlobMatches [] []
  | star {glob run rest : List Char} (hrun : '\n' ∉ run) (h : GlobMatches glob rest) :
    GlobMatches ('*' :: glob) (run ++ rest)
  | question {glob rest : List Char} {c : Char} (hc : c ≠ '\n') (h : GlobMatches glob rest) :
    GlobMatches ('?' :: glob) (c :: rest)
  | char {glob rest : List Char} {c : Char} (hstar : c ≠ '*') (hquestion : c ≠ '?')
    (h : GlobMatches glob rest) : GlobMatches (c :: glob) (c :: rest)

namespace Pattern

/-! ## Runs of atoms -/

/-- The runs of characters that an atom takes. -/
def Atom.Takes : Atom → List Char → Prop
  | .anyRun, run => '\n' ∉ run
  | .anyOne, run => ∃ c, c ≠ '\n' ∧ run = [c]
  | .literal c, run => run = [c]

/-- A text is a run that an atom takes, before a rest with a property. -/
def Atom.Before (a : Atom) (P : List Char → Prop) (text : List Char) : Prop :=
  ∃ run rest, text = run ++ rest ∧ a.Takes run ∧ P rest

/-- The atoms take a text run by run. -/
def Spells : List Atom → List Char → Prop
  | [], text => text = []
  | a :: atoms, text => a.Before (Spells atoms) text

theorem newline_not_mem_cons {c : Char} {run : List Char} :
    '\n' ∉ c :: run ↔ c ≠ '\n' ∧ '\n' ∉ run := by
  rw [List.mem_cons, not_or, ne_comm]

/-- A run of any length is empty, or one character before such a run. -/
theorem before_anyRun_cons {P : List Char → Prop} {c : Char} {rest : List Char} :
    Atom.anyRun.Before P (c :: rest) ↔ P (c :: rest) ∨ (c ≠ '\n' ∧ Atom.anyRun.Before P rest) := by
  constructor
  · rintro ⟨run, tail, htext, hrun, htail⟩
    cases run with
    | nil =>
      rw [List.nil_append] at htext
      exact .inl (htext ▸ htail)
    | cons d run =>
      rw [List.cons_append, List.cons.injEq] at htext
      obtain ⟨rfl, rfl⟩ := htext
      obtain ⟨hd, hrun⟩ := newline_not_mem_cons.mp hrun
      exact .inr ⟨hd, run, tail, rfl, hrun, htail⟩
  · rintro (h | ⟨hc, run, tail, rfl, hrun, htail⟩)
    · exact ⟨[], c :: rest, rfl, List.not_mem_nil, h⟩
    · exact ⟨c :: run, tail, rfl, newline_not_mem_cons.mpr ⟨hc, hrun⟩, htail⟩

@[simp] theorem before_anyRun_nil {P : List Char → Prop} : Atom.anyRun.Before P [] ↔ P [] := by
  constructor
  · rintro ⟨run, rest, htext, -, hrest⟩
    rw [(List.append_eq_nil_iff.mp htext.symm).2] at hrest
    exact hrest
  · exact fun h => ⟨[], [], rfl, List.not_mem_nil, h⟩

theorem before_anyOne {P : List Char → Prop} {text : List Char} :
    Atom.anyOne.Before P text ↔ ∃ c rest, text = c :: rest ∧ c ≠ '\n' ∧ P rest := by
  constructor
  · rintro ⟨run, rest, rfl, ⟨c, hc, rfl⟩, hrest⟩
    exact ⟨c, rest, rfl, hc, hrest⟩
  · rintro ⟨c, rest, rfl, hc, hrest⟩
    exact ⟨[c], rest, rfl, ⟨c, hc, rfl⟩, hrest⟩

theorem before_literal {P : List Char → Prop} {c : Char} {text : List Char} :
    (Atom.literal c).Before P text ↔ ∃ rest, text = c :: rest ∧ P rest := by
  constructor
  · rintro ⟨run, rest, rfl, rfl, hrest⟩
    exact ⟨rest, rfl, hrest⟩
  · rintro ⟨rest, rfl, hrest⟩
    exact ⟨[c], rest, rfl, rfl, hrest⟩

theorem before_anyOne_cons {P : List Char → Prop} {c : Char} {rest : List Char} :
    Atom.anyOne.Before P (c :: rest) ↔ c ≠ '\n' ∧ P rest := by
  rw [before_anyOne]
  constructor
  · rintro ⟨d, tail, htext, hd, htail⟩
    cases htext
    exact ⟨hd, htail⟩
  · rintro ⟨hc, hrest⟩
    exact ⟨c, rest, rfl, hc, hrest⟩

theorem before_literal_cons {P : List Char → Prop} {c d : Char} {rest : List Char} :
    (Atom.literal d).Before P (c :: rest) ↔ c = d ∧ P rest := by
  rw [before_literal]
  constructor
  · rintro ⟨tail, htext, htail⟩
    cases htext
    exact ⟨rfl, htail⟩
  · rintro ⟨rfl, hrest⟩
    exact ⟨rest, rfl, hrest⟩

/-- A text matches a glob when the atoms of the glob spell it. -/
theorem globMatches_iff_spells {glob text : List Char} :
    GlobMatches glob text ↔ Spells (glob.map globAtom) text := by
  constructor
  · intro h
    induction h with
    | nil => rfl
    | @star glob run rest hrun _ ih => exact ⟨run, rest, rfl, hrun, ih⟩
    | @question glob rest c hc _ ih => exact ⟨[c], rest, rfl, ⟨c, hc, rfl⟩, ih⟩
    | @char glob rest c hstar hquestion _ ih =>
      refine ⟨[c], rest, rfl, ?_, ih⟩
      rw [globAtom, if_neg hstar, if_neg hquestion]
      rfl
  · intro h
    induction glob generalizing text with
    | nil =>
      rw [List.map_nil, Spells] at h
      rw [h]
      exact .nil
    | cons c glob ih =>
      rw [List.map_cons, Spells, globAtom] at h
      split at h
      · next hstar =>
        obtain ⟨run, rest, rfl, hrun, hrest⟩ := h
        rw [hstar]
        exact .star hrun (ih hrest)
      · next hstar =>
        split at h
        · next hquestion =>
          obtain ⟨d, rest, rfl, hd, hrest⟩ := before_anyOne.mp h
          rw [hquestion]
          exact .question hd (ih hrest)
        · next hquestion =>
          obtain ⟨rest, rfl, hrest⟩ := before_literal.mp h
          exact .char hstar hquestion (ih hrest)

/-! ## The source as an expression -/

open Expression (Item Place)

/-- A repeated `.` leads over any run without a line break. -/
theorem leads_repeated_anyChar {run : List Char} (hrun : '\n' ∉ run) (before rest : List Char) :
    (Item.repeated .anyChar).Leads ⟨before, run ++ rest⟩ ⟨before ++ run, rest⟩ := by
  induction run generalizing before with
  | nil =>
    rw [List.append_nil]
    exact .noMore
  | cons c run ih =>
    obtain ⟨hc, hrun⟩ := newline_not_mem_cons.mp hrun
    have hmore := ih hrun (before ++ [c])
    rw [List.append_assoc, List.singleton_append] at hmore
    exact .again (.anyChar hc) hmore

/-- A repeated `.` leads over such runs only. -/
theorem run_of_leads_repeated_anyChar {p q : Place} (h : (Item.repeated .anyChar).Leads p q) :
    ∃ run, p.after = run ++ q.after ∧ '\n' ∉ run ∧ q.before = p.before ++ run := by
  -- Along the derivation, only the two rules of a repetition apply.
  generalize hitem : Item.repeated .anyChar = item at h
  induction h with
  | textStart => cases hitem
  | textEnd => cases hitem
  | anyChar => cases hitem
  | char => cases hitem
  | noMore => exact ⟨[], rfl, List.not_mem_nil, by rw [List.append_nil]⟩
  | @again item p q r hfirst _ _ ih =>
    cases hitem
    obtain ⟨run, hafter, hrun, hbefore⟩ := ih rfl
    cases hfirst with
    | @anyChar before after c hc =>
      refine ⟨c :: run, ?_, newline_not_mem_cons.mpr ⟨hc, hrun⟩, ?_⟩
      · rw [List.cons_append, ← hafter]
      · rw [hbefore, List.append_assoc, List.singleton_append]

/-- The item of an atom leads over the runs that the atom takes. -/
theorem leads_ofAtom_iff {a : Atom} {before after : List Char} {q : Place} :
    (Item.ofAtom a).Leads ⟨before, after⟩ q ↔
      ∃ run rest, after = run ++ rest ∧ a.Takes run ∧ q = ⟨before ++ run, rest⟩ := by
  constructor
  · intro h
    cases a with
    | anyRun =>
      obtain ⟨run, hafter, hrun, hbefore⟩ := run_of_leads_repeated_anyChar h
      exact ⟨run, q.after, hafter, hrun, by rw [← hbefore]⟩
    | anyOne =>
      cases h with
      | @anyChar _ after c hc => exact ⟨[c], after, rfl, ⟨c, hc, rfl⟩, rfl⟩
    | literal c =>
      cases h with
      | @char _ after => exact ⟨[c], after, rfl, rfl, rfl⟩
  · rintro ⟨run, rest, rfl, htakes, rfl⟩
    cases a with
    | anyRun => exact leads_repeated_anyChar htakes before rest
    | anyOne =>
      obtain ⟨c, hc, rfl⟩ := htakes
      exact .anyChar hc
    | literal c =>
      rw [show run = [c] from htakes]
      exact .char

/-- The items of atoms lead from a place to the end of a text when the atoms spell what is after
the place. -/
theorem exists_leads_iff_spells {atoms : List Atom} (before : List Char) {after : List Char} :
    (∃ q, Expression.Leads (atoms.map Item.ofAtom ++ [.textEnd]) ⟨before, after⟩ q) ↔
      Spells atoms after := by
  induction atoms generalizing before after with
  | nil =>
    constructor
    · rintro ⟨q, h⟩
      cases h with
      | cons hend _ => cases hend; rfl
    · intro h
      rw [show after = [] from h]
      exact ⟨_, .cons .textEnd .nil⟩
  | cons a atoms ih =>
    constructor
    · rintro ⟨q, h⟩
      cases h with
      | cons hfirst hrest =>
        obtain ⟨run, rest, rfl, htakes, rfl⟩ := leads_ofAtom_iff.mp hfirst
        exact ⟨run, rest, rfl, htakes, (ih _).mp ⟨q, hrest⟩⟩
    · rintro ⟨run, rest, rfl, htakes, hrest⟩
      obtain ⟨q, hq⟩ := (ih (before ++ run)).mpr hrest
      exact ⟨q, .cons (leads_ofAtom_iff.mpr ⟨run, rest, rfl, htakes, rfl⟩) hq⟩

/-- Between the two anchors, the items of atoms are found in a text when the atoms spell it. -/
theorem foundIn_iff_spells {atoms : List Atom} {text : List Char} :
    Expression.FoundIn (.textStart :: atoms.map Item.ofAtom ++ [.textEnd]) text ↔
      Spells atoms text := by
  constructor
  · rintro ⟨before, after, q, rfl, h⟩
    cases h with
    | cons hstart hrest =>
      cases hstart
      exact (exists_leads_iff_spells []).mp ⟨q, hrest⟩
  · intro h
    obtain ⟨q, hq⟩ := (exists_leads_iff_spells []).mpr h
    exact ⟨[], text, q, rfl, .cons .textStart hq⟩

/-! ## The rows of the matcher -/

/-- The row answers for each ending of a text, longest first, whether it has a property. -/
inductive Row (P : List Char → Prop) : List Char → List Bool → Prop where
  | nil {here : Bool} (h : here = true ↔ P []) : Row P [] [here]
  | cons {c : Char} {rest : List Char} {here : Bool} {row : List Bool}
    (h : here = true ↔ P (c :: rest)) (hrest : Row P rest row) : Row P (c :: rest) (here :: row)

/-- The first answer is the one for the whole text. -/
theorem headD_of_row {P : List Char → Prop} {text : List Char} {row : List Bool}
    (h : Row P text row) : row.headD false = true ↔ P text := by
  cases h with
  | nil h => exact h
  | cons h _ => exact h

/-- Extending a row by an atom answers for the atom in front. -/
theorem row_extend (a : Atom) {P : List Char → Prop} {text : List Char} {row : List Bool}
    (h : Row P text row) : Row (a.Before P) text (a.extend text row) := by
  -- One character goes before the answer for the rest. A run of any length may also end here, or
  -- go on with its own answer for the rest.
  induction h with
  | @nil here h =>
    cases a with
    | anyRun => exact .nil (h.trans before_anyRun_nil.symm)
    | anyOne => exact .nil (by simp [before_anyOne])
    | literal c => exact .nil (by simp [before_literal])
  | @cons c rest here row h hrest ih =>
    cases a with
    | anyRun =>
      refine .cons ?_ ih
      rw [Bool.or_eq_true, Bool.and_eq_true, headD_of_row ih, h, before_anyRun_cons]
      simp [Atom.accepts]
    | anyOne =>
      refine .cons ?_ ih
      rw [Bool.and_eq_true, headD_of_row hrest, before_anyOne_cons]
      simp [Atom.accepts]
    | literal d =>
      refine .cons ?_ ih
      rw [Bool.and_eq_true, headD_of_row hrest, before_literal_cons]
      simp [Atom.accepts]

/-- The rows of the matcher answer whether the atoms spell the endings of the text. -/
theorem row_matchRow (text : List Char) (atoms : List Atom) :
    Row (Spells atoms) text (matchRow text atoms) := by
  induction atoms with
  | nil =>
    induction text with
    | nil => exact .nil (by simp [Spells])
    | cons c rest ih => exact .cons (by simp [Spells]) ih
  | cons a atoms ih => exact row_extend a ih

theorem isMatch_iff_spells {p : Pattern} {text : String} :
    p.isMatch text = true ↔ Spells p.atoms text.toList :=
  headD_of_row (row_matchRow text.toList p.atoms)

/-! ## The meaning of a glob -/

/-- A glob matches what its characters say. The source that it compiles to is read as a regular
expression that is found in a text exactly when the whole text matches the glob; the matcher accepts
the same texts, and a selection by the glob the fields with such a path. -/
theorem glob_meaning (glob text : String) :
    (∃ e, Expression.read? (compileGlob glob).source = some e ∧
      (e.FoundIn text.toList ↔ GlobMatches glob.toList text.toList)) ∧
    ((compileGlob glob).isMatch text = true ↔ GlobMatches glob.toList text.toList) ∧
    ∀ f : Field, (Selection.every.withGlob glob).accepts f = true ↔
      GlobMatches glob.toList f.path.toList := by
  have hmatch : ∀ s : String,
      (compileGlob glob).isMatch s = true ↔ GlobMatches glob.toList s.toList := by
    intro s
    rw [isMatch_iff_spells, globMatches_iff_spells]
    rfl
  refine ⟨⟨_, Expression.read?_source _, ?_⟩, hmatch text, fun f => ?_⟩
  · rw [foundIn_iff_spells, globMatches_iff_spells]
    rfl
  · rw [← hmatch f.path]
    simp [Selection.accepts, Selection.withGlob, Selection.every, Selection.admits]

/-- What an expression reads as an operator is escaped. -/
example : (compileGlob "a.[?]*").source = "^a\\.\\[.\\].*$" := by decide +kernel

end Pattern

end LayeredConfig
