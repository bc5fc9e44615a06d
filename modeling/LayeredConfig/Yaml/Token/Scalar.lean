import LayeredConfig.Yaml.Cursor
import LayeredConfig.Yaml.Fault
import LayeredConfig.Yaml.Token

/-
  The text of scalars: plain, quoted and block scalars. Line ends inside a scalar are folded:
  one line end becomes a space, and of several the first is dropped. A literal block keeps all
  of them. Every reader takes a number of steps that the length of the text bounds.
-/

namespace LayeredConfig.Yaml

/-- Blank space collected between two parts of a scalar: the first line end, the line ends after
it, or the spaces when there is no line end. -/
structure Gap where
  hasBreak : Bool
  first : List Char
  more : List Char
  spaces : List Char
  deriving Repr, DecidableEq

namespace Gap

/-- No blank space. -/
def empty : Gap := ⟨false, [], [], []⟩

/-- What the gap stands for in the scalar. -/
def folded (g : Gap) : List Char :=
  if g.hasBreak then
    if g.first = ['\n'] then (if g.more.isEmpty then [' '] else g.more)
    else g.first ++ g.more
  else g.spaces

/-- Takes in spaces and line ends. In a plain scalar a tab must not stand where a continuation
line is indented less than `indent`. -/
def collect (indent : Option Int) : Nat → Gap → Cursor → Except Fault (Gap × Cursor)
  | 0, g, c => .ok (g, c)
  | steps + 1, g, c =>
    match c.rest with
    | [] => .ok (g, c)
    | ch :: _ =>
      if isSpacing ch then
        if ch = '\t' ∧ g.hasBreak ∧ (indent.any fun i => (c.column : Int) < i) then
          .error .badIndentation
        else if g.hasBreak then collect indent steps g c.advance
        else collect indent steps { g with spaces := g.spaces ++ [ch] } c.advance
      else if isBreak ch then
        let (line, c') := c.takeBreak
        if g.hasBreak then collect indent steps { g with more := g.more ++ line } c'
        else collect indent steps ⟨true, line, [], []⟩ c'
      else .ok (g, c)

end Gap

/-! ## Plain scalars -/

/-- A plain scalar ends at this place. -/
def endsPlain (inFlow : Bool) : List Char → Bool
  | [] => true
  | ch :: rest =>
    isSpacing ch || isBreak ch || (ch == ':' && atGap rest) ||
      (inFlow && (ch == ',' || ch == '[' || ch == ']' || ch == '\x7b' || ch == '\x7d'))

/-- A colon that may stand neither inside nor after a plain scalar in a flow collection. -/
def hasStrayColon (inFlow : Bool) : List Char → Bool
  | ':' :: next :: _ =>
    inFlow && (next == ',' || next == '?' || next == '[' || next == ']' || next == '\x7b' ||
      next == '\x7d')
  | _ => false

/-- The characters up to the next gap or the end of the scalar, last one first. -/
def takePlainWord (inFlow : Bool) :
    Nat → List Char → Cursor → Except Fault (List Char × Cursor)
  | 0, acc, c => .ok (acc, c)
  | steps + 1, acc, c =>
    match c.rest with
    | [] => .ok (acc, c)
    | ch :: _ =>
      if isSpacing ch || isBreak ch then .ok (acc, c)
      else if hasStrayColon inFlow c.rest then .error .misplacedIndicator
      else if endsPlain inFlow c.rest then .ok (acc, c)
      else takePlainWord inFlow steps (ch :: acc) c.advance

/-- The words of a plain scalar from `c` on, joined by their gaps. `acc` is the text so far,
last character first, and `g` the gap after it. The answer tells whether a line end came last. -/
def takePlainWords (inFlow : Bool) (indent : Int) :
    Nat → List Char → Gap → Cursor → Except Fault (List Char × Bool × Cursor)
  | 0, acc, g, c => .ok (acc, g.hasBreak, c)
  | steps + 1, acc, g, c => do
    if c.atDocumentMark || c.rest.head? = some '#' then return (acc, g.hasBreak, c)
    let (word, c1) ← takePlainWord inFlow (c.rest.length + 1) [] c
    let (acc, g) := if word.isEmpty then (acc, g) else (word ++ g.folded.reverse ++ acc, Gap.empty)
    match c1.rest with
    | [] => return (acc, g.hasBreak, c1)
    | ch :: _ =>
      if !(isSpacing ch || isBreak ch) then return (acc, g.hasBreak, c1)
      let (g, c2) ← g.collect (some indent) (c1.rest.length + 1) c1
      if !inFlow && (c2.column : Int) < indent then return (acc, g.hasBreak, c2)
      takePlainWords inFlow indent steps acc g c2

/-- A plain scalar, whether it ended after a line end, and the cursor after it. Continuation
lines are indented by at least `indent`. -/
def takePlain (inFlow : Bool) (indent : Int) (c : Cursor) :
    Except Fault (String × Bool × Cursor) := do
  let (acc, atBreak, c') ← takePlainWords inFlow indent (c.rest.length + 1) [] Gap.empty c
  return (String.ofList acc.reverse, atBreak, c')

/-! ## Quoted scalars -/

/-- The value of a hexadecimal digit. -/
def hexValue? (c : Char) : Option Nat :=
  if c.isDigit then some (c.toNat - 48)
  else if 'a' ≤ c ∧ c ≤ 'f' then some (c.toNat - 87)
  else if 'A' ≤ c ∧ c ≤ 'F' then some (c.toNat - 55)
  else none

/-- The value of a run of hexadecimal digits. -/
def hexNumber? (ds : List Char) : Option Nat :=
  ds.foldlM (fun n c => (hexValue? c).map (16 * n + ·)) 0

/-- The character of a code point escape with `width` digits. -/
def codePoint? (width : Nat) (rest : List Char) : Option Char :=
  let ds := rest.take width
  if ds.length ≠ width then none
  else
    match hexNumber? ds with
    | some n => if h : n.isValidChar then some (Char.ofNatAux n h) else none
    | none => none

/-- The character of an escape sequence and its length, the backslash not counted. -/
def escape? : List Char → Option (Char × Nat)
  | [] => none
  | c :: rest =>
    match c with
    | '0' => some ('\x00', 1)
    | 'a' => some ('\x07', 1)
    | 'b' => some ('\x08', 1)
    | 't' | '\t' => some ('\t', 1)
    | 'n' => some ('\n', 1)
    | 'v' => some ('\x0b', 1)
    | 'f' => some ('\x0c', 1)
    | 'r' => some ('\r', 1)
    | 'e' => some ('\x1b', 1)
    | ' ' => some (' ', 1)
    | '"' => some ('"', 1)
    | '/' => some ('/', 1)
    | '\\' => some ('\\', 1)
    | 'N' => some ('\u0085', 1)
    | '_' => some ('\u00a0', 1)
    | 'L' => some ('\u2028', 1)
    | 'P' => some ('\u2029', 1)
    | 'x' => (codePoint? 2 rest).map (·, 3)
    | 'u' => (codePoint? 4 rest).map (·, 5)
    | 'U' => (codePoint? 8 rest).map (·, 9)
    | _ => none

/-- The quote character of a quoted scalar. -/
def quoteOf (single : Bool) : Char := if single then '\'' else '"'

/-- The characters up to the next gap or the closing quote, last one first, and whether an
escaped line end came last. -/
def takeQuotedWord (single : Bool) :
    Nat → List Char → Cursor → Except Fault (List Char × Bool × Cursor)
  | 0, acc, c => .ok (acc, false, c)
  | steps + 1, acc, c =>
    match c.rest with
    | [] => .ok (acc, false, c)
    | ch :: rest =>
      if isSpacing ch || isBreak ch then .ok (acc, false, c)
      else if single && ch == '\'' && rest.head? == some '\'' then
        takeQuotedWord single steps ('\'' :: acc) (c.advanceBy 2)
      else if ch == quoteOf single then .ok (acc, false, c)
      else if !single && ch == '\\' then
        if rest.head?.any isBreak then .ok (acc, true, c.advance.skipBreak)
        else
          match escape? rest with
          | some (e, n) => takeQuotedWord single steps (e :: acc) (c.advanceBy (n + 1))
          | none => .error .badEscape
      else takeQuotedWord single steps (ch :: acc) c.advance

/-- The rest of a quoted scalar up to its closing quote. `acc` is the text so far, last
character first. -/
def takeQuotedWords (single : Bool) :
    Nat → List Char → Cursor → Except Fault (List Char × Cursor)
  | 0, _, _ => .error .unclosedQuote
  | steps + 1, acc, c => do
    if c.atDocumentMark then throw .unexpectedDocumentMark
    if c.rest.isEmpty then throw .unclosedQuote
    let (acc, escapedBreak, c1) ← takeQuotedWord single (c.rest.length + 1) acc c
    if c1.rest.head? = some (quoteOf single) then return (acc, c1.advance)
    let (g, c2) ← Gap.collect none (c1.rest.length + 1) ⟨escapedBreak, [], [], []⟩ c1
    takeQuotedWords single steps (g.folded.reverse ++ acc) c2

/-- A quoted scalar, from its opening quote on. -/
def takeQuoted (single : Bool) (c : Cursor) : Except Fault (String × Cursor) := do
  let (acc, c') ← takeQuotedWords single (c.rest.length + 1) [] c.advance
  return (String.ofList acc.reverse, c')

/-! ## Block scalars -/

/-- What becomes of the line ends at the end of a block scalar. -/
inductive Chomping where
  | strip
  | clip
  | keep
  deriving Repr, DecidableEq

/-- The header of a block scalar: chomping and explicit indentation. -/
structure BlockHeader where
  chomping : Chomping
  increment : Nat
  deriving Repr, DecidableEq

/-- The chomping that a sign selects. -/
def chompingOf? : Char → Option Chomping
  | '+' => some .keep
  | '-' => some .strip
  | _ => none

/-- An indentation indicator from 1 to 9. -/
def takeIncrement (c : Cursor) : Except Fault (Nat × Cursor) :=
  match c.rest with
  | ch :: _ =>
    if ch = '0' then .error .badIndentation
    else if ch.isDigit then .ok (ch.toNat - 48, c.advance)
    else .ok (0, c)
  | [] => .ok (0, c)

/-- A chomping indicator. -/
def takeChomping (c : Cursor) : Chomping × Cursor :=
  match c.rest.head?.bind chompingOf? with
  | some chomping => (chomping, c.advance)
  | none => (.clip, c)

/-- The indicators after `|` or `>`, in either order. -/
def takeHeader (c : Cursor) : Except Fault (BlockHeader × Cursor) := do
  if (c.rest.head?.bind chompingOf?).isSome then
    let (chomping, c) := takeChomping c
    let (increment, c) ← takeIncrement c
    return (⟨chomping, increment⟩, c)
  else
    let (increment, c) ← takeIncrement c
    if increment = 0 then return (⟨.clip, 0⟩, c)
    let (chomping, c) := takeChomping c
    return (⟨chomping, increment⟩, c)

/-- Empty lines and indentation before a line of a block scalar. An indentation of zero means
that it is not known yet. The answer is the line ends, the greatest column, and the cursor. -/
def takeBlockBreaks (indent : Nat) :
    Nat → Nat → List Char → Cursor → Except Fault (Nat × List Char × Cursor)
  | 0, deepest, breaks, c => .ok (deepest, breaks, c)
  | steps + 1, deepest, breaks, c =>
    let spaces := (c.rest.takeWhile (· == ' ')).length
    let c := c.advanceBy (if indent = 0 then spaces else min spaces (indent - c.column))
    let deepest := max deepest c.column
    match c.rest with
    | [] => .ok (deepest, breaks, c)
    | ch :: _ =>
      if (indent = 0 ∨ c.column < indent) ∧ ch = '\t' then .error .badIndentation
      else if isBreak ch then
        let (line, c') := c.takeBreak
        takeBlockBreaks indent steps deepest (breaks ++ line) c'
      else .ok (deepest, breaks, c)

/-- The lines of a block scalar. `acc` is the text so far, last character first; `lead` is the
line end of the line before, `more` the line ends after it, and `blankLead` tells whether that
line began with a space. -/
def takeBlockLines (literal : Bool) (indent : Nat) :
    Nat → List Char → List Char → List Char → Bool → Cursor →
      Except Fault (List Char × List Char × List Char × Cursor)
  | 0, acc, lead, more, _, c => .ok (acc, lead, more, c)
  | steps + 1, acc, lead, more, blankLead, c => do
    if c.column ≠ indent || c.rest.isEmpty then return (acc, lead, more, c)
    let blank := c.rest.head?.any isSpacing
    let joint :=
      if !literal && lead = ['\n'] && !blankLead && !blank then
        if more.isEmpty then [' '] else more
      else lead ++ more
    let (line, c1) := c.takeWhile fun ch => !isBreak ch
    let (lead', c2) := c1.takeBreak
    let (_, more', c3) ← takeBlockBreaks indent (c2.rest.length + 1) 0 [] c2
    takeBlockLines literal indent steps (line.reverse ++ joint.reverse ++ acc) lead' more' blank c3

/-- A block scalar from its indicator on, inside a block that is indented by `parent`. -/
def takeBlock (literal : Bool) (parent : Int) (c : Cursor) :
    Except Fault (String × Cursor) := do
  let (header, c) ← takeHeader c.advance
  let c := (c.skipWhile isSpacing).skipComment
  if !atLineEnd c.rest then throw .misplacedIndicator
  let c := c.skipBreak
  let known : Nat :=
    if header.increment = 0 then 0
    else if parent ≥ 0 then parent.toNat + header.increment
    else header.increment
  let (deepest, breaks, c) ← takeBlockBreaks known (c.rest.length + 1) 0 [] c
  let indent := if known = 0 then max (max deepest (parent + 1).toNat) 1 else known
  let (acc, lead, more, c) ←
    takeBlockLines literal indent (c.rest.length + 1) [] [] breaks false c
  let tail :=
    match header.chomping with
    | .strip => []
    | .clip => lead
    | .keep => lead ++ more
  return (String.ofList (acc.reverse ++ tail), c)

end LayeredConfig.Yaml
