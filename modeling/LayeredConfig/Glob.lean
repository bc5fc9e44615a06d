/-
  Globs over texts: `*` stands for any run of characters and `?` for one character, neither of
  them a line break. A glob compiles to a regular expression that is anchored at both ends; the
  expression is matched by dynamic programming over the endings of the text, so many stars cost
  no more than their number times the length of the text.
-/

namespace LayeredConfig

/-- One element of a compiled glob. -/
inductive Pattern.Atom where
  | anyRun
  | anyOne
  | literal (c : Char)
  deriving Repr, DecidableEq

/-- A regular expression `^…$` whose middle is a sequence of atoms. -/
structure Pattern where
  atoms : List Pattern.Atom
  deriving Repr, DecidableEq

namespace Pattern

/-- The characters with a meaning in regular expressions. -/
def metacharacters : List Char :=
  ['\\', '.', '+', '*', '?', '(', ')', '|', '[', ']', '\x7b', '\x7d', '^', '$', '#', '&', '-', '~']

/-- The source text of an atom. -/
def Atom.source : Atom → List Char
  | .anyRun => ['.', '*']
  | .anyOne => ['.']
  | .literal c => if c ∈ metacharacters then ['\\', c] else [c]

/-- The source text of the expression. -/
def source (p : Pattern) : String :=
  String.ofList ('^' :: p.atoms.flatMap Atom.source ++ ['$'])

/-- The atom accepts this character as one step. -/
def Atom.accepts : Atom → Char → Bool
  | .anyRun, c | .anyOne, c => c != '\n'
  | .literal d, c => c == d

/-- From whether the atoms after `a` match each ending of the text, longest first, whether they
match with `a` in front. The list ends with the answer for the empty ending. -/
def Atom.extend (a : Atom) : List Char → List Bool → List Bool
  | c :: rest, here :: there =>
    let tail := a.extend rest there
    match a with
    | .anyRun => (here || (a.accepts c && tail.headD false)) :: tail
    | .anyOne | .literal _ => (a.accepts c && there.headD false) :: tail
  | _, row =>
    match a with
    | .anyRun => row
    | .anyOne | .literal _ => [false]

/-- Whether the atoms match each ending of the text, longest first. -/
def matchRow (text : List Char) : List Atom → List Bool
  | [] => text.map (fun _ => false) ++ [true]
  | a :: rest => a.extend text (matchRow text rest)

/-- The expression matches the text. -/
def isMatch (p : Pattern) (text : String) : Bool :=
  (matchRow text.toList p.atoms).headD false

end Pattern

/-- The element that a character of a glob stands for. -/
def globAtom (c : Char) : Pattern.Atom :=
  if c = '*' then .anyRun else if c = '?' then .anyOne else .literal c

/-- The expression of a glob. -/
def compileGlob (glob : String) : Pattern := ⟨glob.toList.map globAtom⟩

end LayeredConfig
