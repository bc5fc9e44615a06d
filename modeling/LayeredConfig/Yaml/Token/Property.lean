import LayeredConfig.Text.Utf8
import LayeredConfig.Yaml.Cursor
import LayeredConfig.Yaml.Fault
import LayeredConfig.Yaml.Token
import LayeredConfig.Yaml.Token.Scalar

/-
  Anchors, aliases, tags and directives.
-/

namespace LayeredConfig.Yaml

/-! ## Anchors and aliases -/

/-- Characters that may follow the name of an anchor. -/
def endsAnchor : List Char → Bool
  | [] => true
  | c :: rest => atGap (c :: rest) || c ∈ ['?', ':', ',', ']', '\x7d', '%', '@', '\x60']

/-- The name after `&` or `*`. -/
def takeAnchorName (c : Cursor) : Except Fault (String × Cursor) :=
  let (name, c') := c.advance.takeWhile isWord
  if name.isEmpty || !endsAnchor c'.rest then .error .badAnchor
  else .ok (String.ofList name, c')

/-! ## Tags -/

/-- Characters of a tag besides `%`. Commas and brackets count only between `<` and `>` and in
directives. -/
def isTagChar (wide : Bool) (c : Char) : Bool :=
  isWord c ||
    c ∈ [';', '/', '?', ':', '@', '&', '=', '+', '$', '.', '!', '~', '*', '\'', '(', ')'] ||
    (wide && c ∈ [',', '[', ']'])

/-- The number of bytes of a character that begins with this byte. -/
def sequenceWidth? (octet : Nat) : Option Nat :=
  if octet < 0x80 then some 1
  else if 0xC0 ≤ octet ∧ octet < 0xE0 then some 2
  else if 0xE0 ≤ octet ∧ octet < 0xF0 then some 3
  else if 0xF0 ≤ octet ∧ octet < 0xF8 then some 4
  else none

/-- One byte written as `%` and two hexadecimal digits. -/
def takeOctet (c : Cursor) : Except Fault (Nat × Cursor) :=
  match c.rest with
  | '%' :: a :: b :: _ =>
    match hexNumber? [a, b] with
    | some n => .ok (n, c.advanceBy 3)
    | none => .error .badTag
  | _ => .error .badTag

/-- Further bytes of an escaped character. -/
def takeContinuation : Nat → List UInt8 → Cursor → Except Fault (List UInt8 × Cursor)
  | 0, acc, c => .ok (acc, c)
  | n + 1, acc, c => do
    let (octet, c) ← takeOctet c
    if octet < 0x80 || 0xC0 ≤ octet then throw .badTag
    takeContinuation n (acc ++ [UInt8.ofNat octet]) c

/-- One escaped character. -/
def takeEscapedBytes (c : Cursor) : Except Fault (List UInt8 × Cursor) := do
  let (octet, c) ← takeOctet c
  match sequenceWidth? octet with
  | some width => takeContinuation (width - 1) [UInt8.ofNat octet] c
  | none => throw .badTag

/-- The characters of a tag, and how many were read. -/
def takeTagChars (wide : Bool) :
    Nat → List UInt8 → Nat → Cursor → Except Fault (List UInt8 × Nat × Cursor)
  | 0, acc, count, c => .ok (acc, count, c)
  | steps + 1, acc, count, c =>
    match c.rest with
    | [] => .ok (acc, count, c)
    | ch :: _ =>
      if ch = '%' then do
        let (bytes, c') ← takeEscapedBytes c
        takeTagChars wide steps (acc ++ bytes) (count + 1) c'
      else if isTagChar wide ch then
        takeTagChars wide steps (acc ++ String.utf8EncodeChar ch) (count + 1) c.advance
      else .ok (acc, count, c)

/-- The text of a tag after what was read of it as a possible handle. -/
def takeTagText (wide : Bool) (handle : List Char) (c : Cursor) :
    Except Fault (List UInt8 × Cursor) := do
  let begun := Text.utf8 (String.ofList (handle.drop 1))
  let (bytes, count, c) ← takeTagChars wide (c.rest.length + 1) begun handle.length c
  if count = 0 then throw .badTag
  -- a zero byte ends the text of a tag
  return (bytes.takeWhile (· != 0), c)

/-- `!`, `!!`, `!word!`, or the beginning `!word` of a tag without handle. -/
def takeHandle (c : Cursor) : Except Fault (List Char × Cursor) :=
  match c.rest with
  | '!' :: _ =>
    let (word, c') := c.advance.takeWhile isWord
    match c'.rest with
    | '!' :: _ => .ok ('!' :: word ++ ['!'], c'.advance)
    | _ => .ok ('!' :: word, c')
  | _ => .error .badTag

/-- A complete handle stands between two exclamation marks. -/
def isHandle (s : List Char) : Bool := 1 < s.length && s.getLast? == some '!'

/-- A tag from its `!` on. -/
def takeTag (inFlow : Bool) (c : Cursor) : Except Fault (Token × Cursor) := do
  let (token, c) ← (do
    match c.rest with
    | '!' :: '<' :: _ =>
      let (bytes, c) ← takeTagText true [] (c.advanceBy 2)
      if c.rest.head? ≠ some '>' then throw .badTag
      return (Token.tag "" bytes, c.advance)
    | _ =>
      let (handle, c) ← takeHandle c
      if isHandle handle then
        let (bytes, c) ← takeTagText false [] c
        return (Token.tag (String.ofList handle) bytes, c)
      else
        let (bytes, c) ← takeTagText false handle c
        if bytes.isEmpty then return (Token.tag "" [33], c)
        else return (Token.tag "!" bytes, c) : Except Fault (Token × Cursor))
  if atGap c.rest || (inFlow && c.rest.head? = some ',') then return (token, c)
  else throw .badTag

/-! ## Directives -/

/-- The number of a version, at most nine digits long. -/
def takeVersionNumber (c : Cursor) : Except Fault (Nat × Cursor) :=
  let (digits, c') := c.takeWhile Char.isDigit
  if digits.isEmpty || digits.length > 9 then .error .badDirective
  else .ok (digits.foldl (fun n d => 10 * n + (d.toNat - 48)) 0, c')

/-- The rest of the line of a directive may only hold a comment. -/
def endDirective (c : Cursor) : Except Fault Cursor :=
  let c := (c.skipWhile isSpacing).skipComment
  if atLineEnd c.rest then .ok c.skipBreak else .error .badDirective

/-- A directive from its `%` on. -/
def takeDirective (c : Cursor) : Except Fault (Token × Cursor) := do
  let (name, c) := c.advance.takeWhile isWord
  if !atGap c.rest then throw .badDirective
  let c := c.skipWhile isSpacing
  if name = "YAML".toList then
    let (major, c) ← takeVersionNumber c
    if c.rest.head? ≠ some '.' then throw .badDirective
    let (minor, c) ← takeVersionNumber c.advance
    return (.versionDirective major minor, ← endDirective c)
  else if name = "TAG".toList then
    let (handle, c) ← takeHandle c
    if !(handle = ['!'] || isHandle handle) then throw .badDirective
    if !c.rest.head?.any isSpacing then throw .badDirective
    let (bytes, c) ← takeTagText true [] (c.skipWhile isSpacing)
    if !atGap c.rest then throw .badDirective
    return (.tagDirective (String.ofList handle) bytes, ← endDirective c)
  else throw .badDirective

end LayeredConfig.Yaml
