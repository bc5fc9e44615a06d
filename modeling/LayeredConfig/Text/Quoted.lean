import LayeredConfig.Text.Hidden

/-
  Two quoted forms of a text. `jsonQuoted` is the JSON string: the quote, the backslash and the
  control characters below the space are escaped, all else stands as it is. `debugQuoted` is
  for messages that name a value: it also writes every character that cannot be seen by its
  code point.
-/

namespace LayeredConfig.Text

/-- One character inside a JSON string. -/
def jsonEscaped (c : Char) : List Char :=
  if c = '"' then ['\\', '"']
  else if c = '\\' then ['\\', '\\']
  else if c.toNat = 8 then ['\\', 'b']
  else if c.toNat = 9 then ['\\', 't']
  else if c.toNat = 10 then ['\\', 'n']
  else if c.toNat = 12 then ['\\', 'f']
  else if c.toNat = 13 then ['\\', 'r']
  else if c.toNat < 32 then
    ['\\', 'u', '0', '0', Nat.digitChar (c.toNat / 16), Nat.digitChar (c.toNat % 16)]
  else [c]

/-- A text as a JSON string, with its quotes. -/
def jsonQuoted (s : String) : String :=
  String.ofList ('"' :: s.toList.flatMap jsonEscaped ++ ['"'])

/-- One character inside a text quoted for a message. -/
def debugEscaped (c : Char) : List Char :=
  if c.toNat = 0 then ['\\', '0']
  else if c = '\t' then ['\\', 't']
  else if c = '\n' then ['\\', 'n']
  else if c = '\r' then ['\\', 'r']
  else if c = '"' then ['\\', '"']
  else if c = '\\' then ['\\', '\\']
  else if isHidden c then ['\\', 'u', '\x7b'] ++ Nat.toDigits 16 c.toNat ++ ['\x7d']
  else [c]

/-- A text quoted for a message. -/
def debugQuoted (s : String) : String :=
  String.ofList ('"' :: s.toList.flatMap debugEscaped ++ ['"'])

end LayeredConfig.Text
