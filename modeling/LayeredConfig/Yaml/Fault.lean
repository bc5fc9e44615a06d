/-
  The causes for which a text is no usable YAML document.
-/

namespace LayeredConfig.Yaml

/-- Why a YAML text could not be read. -/
inductive Fault where
  | badCharacter
  | missingValue
  | misplacedIndicator
  | badDirective
  | badAnchor
  | badTag
  | badEscape
  | badIndentation
  | unexpectedDocumentMark
  | unclosedQuote
  | unexpectedToken
  | undefinedTagHandle
  | unknownAlias
  | severalDocuments
  | nestedTooDeep
  | tooManyAliases
  | duplicateKey
  | badNumber
  | wrongType (expected : String)
  deriving Repr, DecidableEq

/-- The text of a fault in messages. -/
def Fault.message : Fault → String
  | .badCharacter => "control characters are not allowed"
  | .missingValue => "could not find expected ':'"
  | .misplacedIndicator => "indicator is not allowed in this context"
  | .badDirective => "malformed directive"
  | .badAnchor => "malformed anchor or alias"
  | .badTag => "malformed tag"
  | .badEscape => "malformed escape sequence"
  | .badIndentation => "found a tab where an indentation space is expected"
  | .unexpectedDocumentMark => "found unexpected document indicator"
  | .unclosedQuote => "found unexpected end of stream"
  | .unexpectedToken => "did not find expected node content"
  | .undefinedTagHandle => "found undefined tag handle"
  | .unknownAlias => "unknown anchor"
  | .severalDocuments => "more than one document"
  | .nestedTooDeep => "recursion limit exceeded"
  | .tooManyAliases => "repetition limit exceeded"
  | .duplicateKey => "duplicate entry with the same key"
  | .badNumber => "number out of range"
  | .wrongType expected => "invalid type: expected " ++ expected

end LayeredConfig.Yaml
