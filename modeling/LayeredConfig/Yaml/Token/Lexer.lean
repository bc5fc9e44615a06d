import LayeredConfig.Yaml.Token.Property

/-
  The tokens of a whole text. A key without `?` is only known to be one when its colon comes,
  so every token that could begin such a key is remembered as pending, one for each level of
  flow collections, and the key mark is put before it later. Block collections open when a
  token stands further right than the current indentation, and close when one stands further
  left.
-/

namespace LayeredConfig.Yaml

/-- A token that may turn out to begin a key. A required key must be followed by its colon. -/
structure PendingKey where
  required : Bool
  position : Nat
  index : Nat
  line : Nat
  column : Nat
  deriving Repr, DecidableEq

/-- The state between two tokens. `tokens` has the last token first; `pending` has the innermost
level first and one level that is always there. -/
structure Lexer where
  cursor : Cursor
  tokens : List Token
  count : Nat
  indent : Int
  indents : List Int
  keyAllowed : Bool
  pending : Option PendingKey
  outer : List (Option PendingKey)
  deriving Repr, DecidableEq

namespace Lexer

/-- The state before a text. -/
def start (text : List Char) : Lexer :=
  { cursor := Cursor.start text
    tokens := []
    count := 0
    indent := -1
    indents := []
    keyAllowed := true
    pending := none
    outer := [] }

/-- The cursor is inside a flow collection. -/
def inFlow (s : Lexer) : Bool := !s.outer.isEmpty

/-- One more token at the end. -/
def push (s : Lexer) (t : Token) : Lexer :=
  { s with tokens := t :: s.tokens, count := s.count + 1 }

/-- A token put before the token at `position`. -/
def insertAt (s : Lexer) (position : Nat) (t : Token) : Lexer :=
  let later := s.count - position
  { s with tokens := s.tokens.take later ++ t :: s.tokens.drop later, count := s.count + 1 }

/-! ## Indentation -/

/-- Closes the block collections that are indented by more than `column`. -/
def unroll (column : Int) : List Int → Lexer → Lexer
  | [], s => s
  | outer :: more, s =>
    if s.indent > column then
      unroll column more { s.push .blockEnd with indent := outer, indents := more }
    else s

/-- Closes block collections; flow collections do not look at indentation. -/
def unrollTo (s : Lexer) (column : Int) : Lexer :=
  if s.inFlow then s else unroll column s.indents s

/-- Opens a block collection when `column` lies further right than the current one, at the end
or before the token at a position. -/
def roll (s : Lexer) (column : Nat) (position : Option Nat) (t : Token) : Lexer :=
  if s.inFlow || !(s.indent < column) then s
  else
    let s := { s with indents := s.indent :: s.indents, indent := column }
    match position with
    | some p => s.insertAt p t
    | none => s.push t

/-! ## Pending keys -/

/-- The greatest length of a key without `?`. -/
def maxKeyLength : Nat := 1024

/-- Gives up the pending key of this level. -/
def dropPending (s : Lexer) : Except Fault Lexer :=
  match s.pending with
  | some key => if key.required then .error .missingValue else .ok { s with pending := none }
  | none => .ok s

/-- The next token may begin a key, where one is allowed. -/
def savePending (s : Lexer) : Except Fault Lexer :=
  if s.keyAllowed then do
    let c := s.cursor
    let key : PendingKey :=
      ⟨!s.inFlow && s.indent == (c.column : Int), s.count, c.index, c.line, c.column⟩
    let s ← s.dropPending
    return { s with pending := some key }
  else .ok s

/-- The pending key, if it is on the current line and not too long. -/
def validPending (s : Lexer) : Except Fault (Option PendingKey) :=
  match s.pending with
  | some key =>
    if key.line < s.cursor.line ∨ key.index + maxKeyLength < s.cursor.index then
      if key.required then .error .missingValue else .ok none
    else .ok (some key)
  | none => .ok none

/-! ## Blank space and comments -/

/-- Passes over spaces, comments and line ends before a token. Tabs count as space only where no
key may begin. A byte order mark is passed over at the beginning of a line. -/
def skipBlank : Nat → Lexer → Lexer
  | 0, s => s
  | steps + 1, s =>
    let c := s.cursor
    let c := if c.column = 0 ∧ c.rest.head? = some '\ufeff' then c.advance else c
    let c := c.skipWhile fun ch => ch == ' ' || (ch == '\t' && (s.inFlow || !s.keyAllowed))
    let c := c.skipComment
    match c.rest with
    | ch :: _ =>
      if isBreak ch then
        skipBlank steps
          { s with cursor := c.skipBreak, keyAllowed := s.keyAllowed || !s.inFlow }
      else { s with cursor := c }
    | [] => { s with cursor := c }

/-! ## Tokens -/

/-- A token of `n` characters at the cursor. -/
def pushMark (s : Lexer) (t : Token) (n : Nat) : Lexer :=
  { s.push t with cursor := s.cursor.advanceBy n }

/-- The end of the text, which closes all block collections. -/
def lexEnd (s : Lexer) : Except Fault Lexer := do
  let s ← (s.unrollTo (-1)).dropPending
  return { s.push .streamEnd with keyAllowed := false }

/-- A directive, which closes all block collections. -/
def lexDirective (s : Lexer) : Except Fault Lexer := do
  let s ← (s.unrollTo (-1)).dropPending
  let (t, c) ← takeDirective s.cursor
  return { s.push t with cursor := c, keyAllowed := false }

/-- A document mark, which closes all block collections. -/
def lexDocumentMark (s : Lexer) (t : Token) : Except Fault Lexer := do
  let s ← (s.unrollTo (-1)).dropPending
  return { s.pushMark t 3 with keyAllowed := false }

/-- The beginning of a flow collection, which may itself begin a key. -/
def lexFlowStart (s : Lexer) (t : Token) : Except Fault Lexer := do
  let s ← s.savePending
  return { s.pushMark t 1 with
    outer := s.pending :: s.outer, pending := none, keyAllowed := true }

/-- The end of a flow collection, back to the pending key in front of it. -/
def lexFlowEnd (s : Lexer) (t : Token) : Except Fault Lexer := do
  let s ← s.dropPending
  let s := { s.pushMark t 1 with keyAllowed := false }
  match s.outer with
  | key :: more => return { s with pending := key, outer := more }
  | [] => return s

/-- A comma, after which a key may begin. -/
def lexFlowEntry (s : Lexer) : Except Fault Lexer := do
  let s ← s.dropPending
  return { s.pushMark .flowEntry 1 with keyAllowed := true }

/-- A dash, which may open a block sequence. -/
def lexBlockEntry (s : Lexer) : Except Fault Lexer := do
  if !s.inFlow && !s.keyAllowed then throw .misplacedIndicator
  let s ← (s.roll s.cursor.column none .blockSequenceStart).dropPending
  return { s.pushMark .blockEntry 1 with keyAllowed := true }

/-- A question mark, which may open a block mapping. -/
def lexKey (s : Lexer) : Except Fault Lexer := do
  if !s.inFlow && !s.keyAllowed then throw .misplacedIndicator
  let s ← (s.roll s.cursor.column none .blockMappingStart).dropPending
  return { s.pushMark .key 1 with keyAllowed := !s.inFlow }

/-- A colon. It makes the pending key a key; without one the key is empty or came after a
question mark. -/
def lexValue (s : Lexer) : Except Fault Lexer := do
  match ← s.validPending with
  | some key =>
    let s := s.insertAt key.position .key
    let s := s.roll key.column (some key.position) .blockMappingStart
    return { s.pushMark .value 1 with pending := none, keyAllowed := false }
  | none =>
    if !s.inFlow && !s.keyAllowed then throw .misplacedIndicator
    let s := s.roll s.cursor.column none .blockMappingStart
    return { s.pushMark .value 1 with pending := none, keyAllowed := !s.inFlow }

/-- An anchor or an alias. -/
def lexAnchor (s : Lexer) (t : String → Token) : Except Fault Lexer := do
  let s ← s.savePending
  let (name, c) ← takeAnchorName s.cursor
  return { s.push (t name) with cursor := c, keyAllowed := false }

/-- A tag. -/
def lexTag (s : Lexer) : Except Fault Lexer := do
  let s ← s.savePending
  let (t, c) ← takeTag s.inFlow s.cursor
  return { s.push t with cursor := c, keyAllowed := false }

/-- A literal or folded block scalar, which begins no key. -/
def lexBlockScalar (s : Lexer) (literal : Bool) : Except Fault Lexer := do
  let s ← s.dropPending
  let (text, c) ← takeBlock literal s.indent s.cursor
  let style := if literal then ScalarStyle.literal else .folded
  return { s.push (.scalar text style) with cursor := c, keyAllowed := true }

/-- A quoted scalar. -/
def lexQuoted (s : Lexer) (single : Bool) : Except Fault Lexer := do
  let s ← s.savePending
  let (text, c) ← takeQuoted single s.cursor
  return { s.push (.scalar text .quoted) with cursor := c, keyAllowed := false }

/-- A plain scalar. A key may follow only on another line. -/
def lexPlain (s : Lexer) : Except Fault Lexer := do
  let s ← s.savePending
  let (text, afterBreak, c) ← takePlain s.inFlow (s.indent + 1) s.cursor
  return { s.push (.scalar text .plain) with cursor := c, keyAllowed := afterBreak }

/-- Characters that begin no plain scalar. -/
def indicators : List Char :=
  ['-', '?', ':', ',', '[', ']', '\x7b', '\x7d', '#', '&', '*', '!', '|', '>', '\'', '"', '%',
    '@', '\x60']

/-- A plain scalar may begin here. -/
def beginsPlain (inFlow : Bool) (c : Char) (rest : List Char) : Bool :=
  !(isSpacing c || isBreak c || c ∈ indicators) ||
    (c == '-' && !rest.head?.any isSpacing) ||
    (!inFlow && (c == '?' || c == ':') && !atGap rest)

/-- The token at the cursor, blank space before it already passed over. -/
def lexToken (s : Lexer) : Except Fault Lexer :=
  let s := s.unrollTo s.cursor.column
  match s.cursor.rest with
  | [] => s.lexEnd
  | c :: rest =>
    if s.cursor.column = 0 ∧ c = '%' then s.lexDirective
    else if s.cursor.atDocumentMark then
      s.lexDocumentMark (if c = '-' then .documentStart else .documentEnd)
    else if c = '[' then s.lexFlowStart .flowSequenceStart
    else if c = '\x7b' then s.lexFlowStart .flowMappingStart
    else if c = ']' then s.lexFlowEnd .flowSequenceEnd
    else if c = '\x7d' then s.lexFlowEnd .flowMappingEnd
    else if c = ',' then s.lexFlowEntry
    else if c = '-' ∧ atGap rest then s.lexBlockEntry
    else if c = '?' ∧ (s.inFlow ∨ atGap rest) then s.lexKey
    else if c = ':' ∧ (s.inFlow ∨ atGap rest) then s.lexValue
    else if c = '*' then s.lexAnchor .aliasOf
    else if c = '&' then s.lexAnchor .anchor
    else if c = '!' then s.lexTag
    else if c = '|' ∧ !s.inFlow then s.lexBlockScalar true
    else if c = '>' ∧ !s.inFlow then s.lexBlockScalar false
    else if c = '\'' then s.lexQuoted true
    else if c = '"' then s.lexQuoted false
    else if beginsPlain s.inFlow c rest then s.lexPlain
    else .error .badCharacter

/-- All tokens up to the end of the text. -/
def lexAll : Nat → Lexer → Except Fault Lexer
  | 0, _ => .error .unexpectedToken
  | steps + 1, s => do
    let s := skipBlank (s.cursor.rest.length + 1) s
    let ended := s.cursor.rest.isEmpty
    let s ← s.lexToken
    if ended then return s else lexAll steps s

end Lexer

/-- The tokens of a text. -/
def tokens (text : String) : Except Fault (List Token) := do
  let chars := text.toList
  if !chars.all isAllowed then throw .badCharacter
  let s ← Lexer.lexAll (chars.length + 2) (Lexer.start chars)
  return s.tokens.reverse

end LayeredConfig.Yaml
