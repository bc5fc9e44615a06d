import LayeredConfig.Yaml.Fault
import LayeredConfig.Yaml.Node
import LayeredConfig.Yaml.Token.Lexer

/-
  Documents from tokens. Each function takes a node or the rest of a collection from the front
  of the tokens. The number of steps is bounded by the number of tokens.
-/

namespace LayeredConfig.Yaml

/-- The tokens not yet used and the anchors bound so far with their slots. -/
structure NodeParser where
  tokens : List Token
  anchors : List (String × Nat)
  deriving Repr, DecidableEq

/-- The handles that a document may use in tags. -/
abbrev TagHandles := List (String × List UInt8)

namespace NodeParser

/-- The parser after the next token. -/
def skip (s : NodeParser) : NodeParser := { s with tokens := s.tokens.tail }

/-- The next token is one of the given ones, or there is none. -/
def atAny (s : NodeParser) (ts : List Token) : Bool :=
  match s.tokens with
  | [] => true
  | t :: _ => t ∈ ts

/-- The next token is `t`. -/
def isNext (s : NodeParser) (t : Token) : Bool := s.tokens.head? == some t

/-- Binds an anchor to the next slot. -/
def bind (s : NodeParser) (name : String) : Nat × NodeParser :=
  let slot := s.anchors.length
  (slot, { s with anchors := (name, slot) :: s.anchors.filter fun a => a.1 != name })

/-- A scalar that is not written. -/
def emptyScalar : Node := .scalar ⟨none, none⟩ "" .plain

/-- The whole tag of a handle and a suffix. -/
def resolveTag (handles : TagHandles) (handle : String) (suffix : List UInt8) :
    Except Fault (List UInt8) :=
  if handle.isEmpty then .ok suffix
  else
    match handles.lookup handle with
    | some start => .ok (start ++ suffix)
    | none => .error .undefinedTagHandle

/-- The anchor name and the tag in front of a node, in either order. -/
def takeProperties (handles : TagHandles) (s : NodeParser) :
    Except Fault (Option String × Option (List UInt8) × NodeParser) := do
  match s.tokens with
  | .anchor name :: .tag handle suffix :: rest =>
    return (some name, some (← resolveTag handles handle suffix), { s with tokens := rest })
  | .anchor name :: rest => return (some name, none, { s with tokens := rest })
  | .tag handle suffix :: .anchor name :: rest =>
    return (some name, some (← resolveTag handles handle suffix), { s with tokens := rest })
  | .tag handle suffix :: rest =>
    return (none, some (← resolveTag handles handle suffix), { s with tokens := rest })
  | _ => return (none, none, s)

/-- The properties of a node with its slot, and the state with its anchor bound. -/
def bindProperties (s : NodeParser) (name : Option String) (tag : Option (List UInt8)) :
    NodeProperties × NodeParser :=
  match name with
  | some n =>
    let (slot, s) := s.bind n
    (⟨tag, some slot⟩, s)
  | none => (⟨tag, none⟩, s)

mutual

/-- A node. Block collections are allowed where `block` holds, and a sequence that is not
indented where `indentless` holds. -/
def takeNode (handles : TagHandles) : Nat → Bool → Bool → NodeParser →
    Except Fault (Node × NodeParser)
  | 0, _, _, _ => .error .unexpectedToken
  | steps + 1, block, indentless, s =>
    match s.tokens with
    | .aliasOf name :: _ =>
      match s.anchors.lookup name with
      | some slot => .ok (.aliasOf slot, s.skip)
      | none => .error .unknownAlias
    | _ => do
      let (name, tag, s) ← takeProperties handles s
      match s.tokens with
      | .scalar text style :: _ =>
        let (p, s) := s.bindProperties name tag
        return (.scalar p text style, s.skip)
      | .flowSequenceStart :: _ =>
        let (p, s) := s.bindProperties name tag
        let (items, s) ← takeFlowItems handles steps true s.skip
        return (.sequence p items, s)
      | .flowMappingStart :: _ =>
        let (p, s) := s.bindProperties name tag
        let (entries, s) ← takeFlowEntries handles steps true s.skip
        return (.mapping p entries, s)
      | t :: _ =>
        if indentless && t == .blockEntry then
          let (p, s) := s.bindProperties name tag
          let (items, s) ← takeIndentlessItems handles steps s
          return (.sequence p items, s)
        else if block && t == .blockSequenceStart then
          let (p, s) := s.bindProperties name tag
          let (items, s) ← takeBlockItems handles steps s.skip
          return (.sequence p items, s)
        else if block && t == .blockMappingStart then
          let (p, s) := s.bindProperties name tag
          let (entries, s) ← takeBlockEntries handles steps s.skip
          return (.mapping p entries, s)
        else if name.isSome || tag.isSome then
          let (p, s) := s.bindProperties name tag
          return (.scalar p "" .plain, s)
        else throw .unexpectedToken
      | [] => throw .unexpectedToken

/-- A node, or an empty scalar when one of the given tokens comes first. -/
def takeNodeUnless (handles : TagHandles) : Nat → Bool → Bool → List Token → NodeParser →
    Except Fault (Node × NodeParser)
  | 0, _, _, _, _ => .error .unexpectedToken
  | steps + 1, block, indentless, ends, s =>
    if s.atAny ends then .ok (emptyScalar, s) else takeNode handles steps block indentless s

/-- The items of an indented block sequence. -/
def takeBlockItems (handles : TagHandles) : Nat → NodeParser →
    Except Fault (List Node × NodeParser)
  | 0, _ => .error .unexpectedToken
  | steps + 1, s =>
    match s.tokens with
    | .blockEntry :: _ => do
      let (item, s) ← takeNodeUnless handles steps true false [.blockEntry, .blockEnd] s.skip
      let (items, s) ← takeBlockItems handles steps s
      return (item :: items, s)
    | .blockEnd :: _ => .ok ([], s.skip)
    | _ => .error .unexpectedToken

/-- The items of a block sequence that is indented like the key above it. -/
def takeIndentlessItems (handles : TagHandles) : Nat → NodeParser →
    Except Fault (List Node × NodeParser)
  | 0, _ => .error .unexpectedToken
  | steps + 1, s =>
    match s.tokens with
    | .blockEntry :: _ => do
      let (item, s) ← takeNodeUnless handles steps true false
        [.blockEntry, .key, .value, .blockEnd] s.skip
      let (items, s) ← takeIndentlessItems handles steps s
      return (item :: items, s)
    | _ => .ok ([], s)

/-- The entries of a block mapping. -/
def takeBlockEntries (handles : TagHandles) : Nat → NodeParser →
    Except Fault (List (Node × Node) × NodeParser)
  | 0, _ => .error .unexpectedToken
  | steps + 1, s =>
    match s.tokens with
    | .key :: _ => do
      let ends := [Token.key, .value, .blockEnd]
      let (key, s) ← takeNodeUnless handles steps true true ends s.skip
      let (value, s) ←
        (if s.isNext .value then takeNodeUnless handles steps true true ends s.skip
        else .ok (emptyScalar, s))
      let (entries, s) ← takeBlockEntries handles steps s
      return ((key, value) :: entries, s)
    | .blockEnd :: _ => .ok ([], s.skip)
    | _ => .error .unexpectedToken

/-- The items of a flow sequence. -/
def takeFlowItems (handles : TagHandles) : Nat → Bool → NodeParser →
    Except Fault (List Node × NodeParser)
  | 0, _, _ => .error .unexpectedToken
  | steps + 1, first, s =>
    if s.isNext .flowSequenceEnd then .ok ([], s.skip)
    else if !first && !s.isNext .flowEntry then .error .unexpectedToken
    else do
      let s := if first then s else s.skip
      if s.isNext .flowSequenceEnd then return ([], s.skip)
      let (item, s) ←
        (if s.isNext .key then takePair handles steps s.skip
        else takeNode handles steps false false s)
      let (items, s) ← takeFlowItems handles steps false s
      return (item :: items, s)

/-- A mapping of one entry inside a flow sequence, after its key mark. A key that is not written
uses up the token that stands in its place. -/
def takePair (handles : TagHandles) : Nat → NodeParser → Except Fault (Node × NodeParser)
  | 0, _ => .error .unexpectedToken
  | steps + 1, s => do
    let (key, s) ←
      (if s.atAny [.value, .flowEntry, .flowSequenceEnd] then .ok (emptyScalar, s.skip)
      else takeNode handles steps false false s)
    let (value, s) ←
      (if s.isNext .value then
        takeNodeUnless handles steps false false [.flowEntry, .flowSequenceEnd] s.skip
      else .ok (emptyScalar, s))
    return (.mapping ⟨none, none⟩ [(key, value)], s)

/-- The entries of a flow mapping. -/
def takeFlowEntries (handles : TagHandles) : Nat → Bool → NodeParser →
    Except Fault (List (Node × Node) × NodeParser)
  | 0, _, _ => .error .unexpectedToken
  | steps + 1, first, s =>
    if s.isNext .flowMappingEnd then .ok ([], s.skip)
    else if !first && !s.isNext .flowEntry then .error .unexpectedToken
    else do
      let s := if first then s else s.skip
      if s.isNext .flowMappingEnd then return ([], s.skip)
      let (entry, s) ← takeFlowEntry handles steps s
      let (entries, s) ← takeFlowEntries handles steps false s
      return (entry :: entries, s)

/-- One entry of a flow mapping. A node without key mark is a key without value. -/
def takeFlowEntry (handles : TagHandles) : Nat → NodeParser →
    Except Fault ((Node × Node) × NodeParser)
  | 0, _ => .error .unexpectedToken
  | steps + 1, s => do
    if s.isNext .key then
      let (key, s) ← takeNodeUnless handles steps false false
        [.value, .flowEntry, .flowMappingEnd] s.skip
      let (value, s) ←
        (if s.isNext .value then
          takeNodeUnless handles steps false false [.flowEntry, .flowMappingEnd] s.skip
        else .ok (emptyScalar, s))
      return ((key, value), s)
    else
      let (key, s) ← takeNode handles steps false false s
      return ((key, emptyScalar), s)

end

/-! ## Documents -/

/-- The handles that every document may use. -/
def defaultHandles : TagHandles :=
  [("!", "!".toUTF8.data.toList), ("!!", "tag:yaml.org,2002:".toUTF8.data.toList)]

/-- The directives in front of a document: whether a version was named, the tag handles, and the
tokens after them. -/
def takeDirectives : Bool → TagHandles → List Token →
    Except Fault (Bool × TagHandles × List Token)
  | named, handles, .versionDirective major minor :: rest =>
    if named || major ≠ 1 || (minor ≠ 1 && minor ≠ 2) then .error .badDirective
    else takeDirectives true handles rest
  | named, handles, .tagDirective handle start :: rest =>
    if (handles.lookup handle).isSome then .error .badDirective
    else takeDirectives named (handles ++ [(handle, start)]) rest
  | named, handles, rest => .ok (named, handles, rest)

/-- After the document only end marks may follow. -/
def endStream (tokens : List Token) : Except Fault Unit :=
  match tokens.dropWhile (· == .documentEnd) with
  | [.streamEnd] => .ok ()
  | _ => .error .severalDocuments

/-- The only document of a text, without root when the text holds none. -/
def takeDocument (tokens : List Token) : Except Fault Document := do
  if tokens = [.streamEnd] then return .ofRoot none
  let (_, handles, rest) ← takeDirectives false [] tokens
  let directives := rest.length < tokens.length
  let handles := handles ++ defaultHandles
  let steps := 4 * tokens.length + 8
  match rest with
  | .documentStart :: rest =>
    let s : NodeParser := ⟨rest, []⟩
    let (root, s) ←
      (match rest with
      | .versionDirective .. :: _ | .tagDirective .. :: _ => .ok (emptyScalar, s)
      | _ => takeNodeUnless handles steps true false [.documentStart, .documentEnd, .streamEnd] s)
    endStream s.tokens
    return .ofRoot (some root)
  | _ =>
    if directives then throw .badDirective
    let (root, s) ← takeNode handles steps true false ⟨rest, []⟩
    endStream s.tokens
    return .ofRoot (some root)

end NodeParser

/-- The document of a text. -/
def Document.parse (text : String) : Except Fault Document := do
  NodeParser.takeDocument (← tokens text)

end LayeredConfig.Yaml
