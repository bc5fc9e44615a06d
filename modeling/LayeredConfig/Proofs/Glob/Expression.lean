import LayeredConfig.Glob

/-
  Regular expressions, as far as the sources of compiled globs need them: single characters, `.`,
  the two anchors, repetition, and escapes. `Expression.read?` says how a source text is read; a
  source that uses anything else (groups, alternatives, classes, other repetitions) is not read at
  all. `Expression.Leads` says how an expression moves through a text, and an expression is found
  in a text when it leads from any place of it to another (`Expression.FoundIn`). None of this
  looks at globs. The source of a compiled glob is read as the two anchors with one item for each
  atom between them (`read?_source`).
-/

namespace LayeredConfig

/-- One item of a regular expression. -/
inductive Expression.Item where
  | textStart
  | textEnd
  | anyChar
  | char (c : Char)
  | repeated (item : Expression.Item)
  deriving Repr, DecidableEq

/-- A regular expression: items to match one after another. -/
abbrev Expression := List Expression.Item

namespace Expression

/-! ## Where an expression matches -/

/-- A place in a text: the characters before it and those after it. -/
structure Place where
  before : List Char
  after : List Char

/-- An item matches the characters between two places. `.` stands for any character but a line
break, and an anchor for no character at all. -/
inductive Item.Leads : Item → Place → Place → Prop where
  | textStart {after : List Char} : Leads .textStart ⟨[], after⟩ ⟨[], after⟩
  | textEnd {before : List Char} : Leads .textEnd ⟨before, []⟩ ⟨before, []⟩
  | anyChar {before after : List Char} {c : Char} (h : c ≠ '\n') :
    Leads .anyChar ⟨before, c :: after⟩ ⟨before ++ [c], after⟩
  | char {before after : List Char} {c : Char} :
    Leads (.char c) ⟨before, c :: after⟩ ⟨before ++ [c], after⟩
  | noMore {item : Item} {p : Place} : Leads (.repeated item) p p
  | again {item : Item} {p q r : Place} (h : Leads item p q) (hmore : Leads (.repeated item) q r) :
    Leads (.repeated item) p r

/-- The items of an expression match the characters between two places, one after another. -/
inductive Leads : Expression → Place → Place → Prop where
  | nil {p : Place} : Leads [] p p
  | cons {item : Item} {rest : Expression} {p q r : Place} (h : item.Leads p q)
    (hrest : Leads rest q r) : Leads (item :: rest) p r

/-- The expression matches some part of the text. -/
def FoundIn (e : Expression) (text : List Char) : Prop :=
  ∃ (before after : List Char) (q : Place), text = before ++ after ∧ e.Leads ⟨before, after⟩ q

/-! ## Reading a source -/

/-- The characters that do not stand for themselves. -/
def operators : List Char :=
  ['\\', '.', '+', '*', '?', '(', ')', '|', '[', ']', '\x7b', '\x7d', '^', '$']

/-- The characters that stand for themselves after a backslash. -/
def escapable : List Char := operators ++ ['#', '&', '-', '~']

/-- The item that a single character stands for. -/
def Item.ofChar? (c : Char) : Option Item :=
  if c = '^' then some .textStart
  else if c = '$' then some .textEnd
  else if c = '.' then some .anyChar
  else if c ∈ operators then none
  else some (.char c)

/-- The items of a source after those that are read, the last of these first. A star repeats the
item before it. -/
def readItems (done : List Item) : List Char → Option Expression
  | [] => some done.reverse
  | c :: rest =>
    if c = '\\' then
      match rest with
      | d :: rest => if d ∈ escapable then readItems (.char d :: done) rest else none
      | [] => none
    else if c = '*' then
      match done with
      | item :: done => readItems (.repeated item :: done) rest
      | [] => none
    else
      match Item.ofChar? c with
      | some item => readItems (item :: done) rest
      | none => none

/-- The expression of a source text, unless the source uses more than is modelled here. -/
def read? (source : String) : Option Expression := readItems [] source.toList

theorem readItems_escape {c : Char} (hc : c ∈ escapable) (done : List Item) (rest : List Char) :
    readItems done ('\\' :: c :: rest) = readItems (.char c :: done) rest := by
  simp [readItems, hc]

theorem readItems_star (item : Item) (done : List Item) (rest : List Char) :
    readItems (item :: done) ('*' :: rest) = readItems (.repeated item :: done) rest := by
  rw [readItems.eq_def]
  simp

theorem readItems_ofChar? {c : Char} {item : Item} (hc : Item.ofChar? c = some item)
    (hslash : c ≠ '\\') (hstar : c ≠ '*') (done : List Item) (rest : List Char) :
    readItems done (c :: rest) = readItems (item :: done) rest := by
  rw [readItems.eq_def]
  simp [hslash, hstar, hc]

/-- A character that is no operator stands for itself. -/
theorem readItems_plain {c : Char} (hc : c ∉ operators) (done : List Item) (rest : List Char) :
    readItems done (c :: rest) = readItems (.char c :: done) rest := by
  have hne : ∀ d ∈ operators, c ≠ d := by
    rintro d hd rfl
    exact hc hd
  refine readItems_ofChar? ?_ (hne '\\' (by decide)) (hne '*' (by decide)) done rest
  rw [Item.ofChar?, if_neg (hne '^' (by decide)), if_neg (hne '$' (by decide)),
    if_neg (hne '.' (by decide)), if_neg hc]

/-! ## The source of a pattern -/

/-- The item that the source of an atom stands for. -/
def Item.ofAtom : Pattern.Atom → Item
  | .anyRun => .repeated .anyChar
  | .anyOne => .anyChar
  | .literal c => .char c

/-- Every operator is written with a backslash, and every character that is may be. -/
theorem mem_metacharacters {c : Char} :
    (c ∈ operators → c ∈ Pattern.metacharacters) ∧
      (c ∈ Pattern.metacharacters → c ∈ escapable) := by
  have hoperators : operators.all (· ∈ Pattern.metacharacters) = true := by decide
  have hescapable : Pattern.metacharacters.all (· ∈ escapable) = true := by decide
  exact ⟨fun h => of_decide_eq_true (List.all_eq_true.mp hoperators c h),
    fun h => of_decide_eq_true (List.all_eq_true.mp hescapable c h)⟩

/-- The source of an atom is read as its item. -/
theorem readItems_source (a : Pattern.Atom) (done : List Item) (rest : List Char) :
    readItems done (a.source ++ rest) = readItems (Item.ofAtom a :: done) rest := by
  have hdot : ∀ rest, readItems done ('.' :: rest) = readItems (.anyChar :: done) rest :=
    fun rest => readItems_ofChar? rfl (by decide) (by decide) done rest
  cases a with
  | anyRun =>
    change readItems done ('.' :: '*' :: rest) = _
    rw [hdot, readItems_star]
    rfl
  | anyOne => exact hdot rest
  | literal c =>
    rw [Pattern.Atom.source, Item.ofAtom]
    split
    · next hmeta => exact readItems_escape (mem_metacharacters.2 hmeta) done rest
    · next hplain => exact readItems_plain (fun h => hplain (mem_metacharacters.1 h)) done rest

theorem readItems_flatMap_source (atoms : List Pattern.Atom) (done : List Item)
    (rest : List Char) :
    readItems done (atoms.flatMap Pattern.Atom.source ++ rest) =
      readItems ((atoms.map Item.ofAtom).reverse ++ done) rest := by
  induction atoms generalizing done with
  | nil => rfl
  | cons a atoms ih =>
    rw [List.flatMap_cons, List.append_assoc, readItems_source, ih, List.map_cons,
      List.reverse_cons, List.append_assoc, List.singleton_append]

/-- The source of a pattern is read as its atoms between the two anchors. -/
theorem read?_source (p : Pattern) :
    read? p.source = some (.textStart :: p.atoms.map Item.ofAtom ++ [.textEnd]) := by
  have hstart : ∀ rest, readItems [] ('^' :: rest) = readItems [.textStart] rest :=
    readItems_ofChar? rfl (by decide) (by decide) []
  have hend : ∀ done, readItems done ['$'] = readItems (.textEnd :: done) [] :=
    fun done => readItems_ofChar? rfl (by decide) (by decide) done []
  rw [read?, Pattern.source, String.toList_ofList, List.cons_append, hstart,
    readItems_flatMap_source, hend, readItems]
  simp

end Expression

end LayeredConfig
