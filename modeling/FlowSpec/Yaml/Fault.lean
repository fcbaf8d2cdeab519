/-!
What can be wrong with a YAML text. A fault names its cause and the line it is reported at; the
wording stands in one place. Lines are counted from one, and line zero means that no line is told: a
fault on the first line of the text carries none.
-/

set_option autoImplicit false

namespace FlowSpec.Yaml

/-- A place in the text: how many characters and lines stand before it, and how far into its line it
is. -/
structure Mark where
  index : Nat := 0
  line : Nat := 0
  column : Nat := 0
deriving Repr, DecidableEq, Inhabited

/-- The cause of a fault. -/
inductive Problem where
  | controlCharacter
  | expectedColon
  | tooDeep
  | entryNotAllowed
  | keyNotAllowed
  | valueNotAllowed
  | cannotStartToken
  | unknownDirective
  | expectedCommentOrBreak
  | expectedDirectiveName
  | nonAlphabetical
  | expectedDigitOrDot
  | longVersionNumber
  | expectedVersionNumber
  | expectedBlank
  | expectedBlankOrBreak
  | expectedAlphanumeric
  | expectedTagClose
  | expectedTagMark
  | expectedTagText
  | expectedEscapedOctet
  | wrongLeadingOctet
  | wrongTrailingOctet
  | zeroIndentation
  | tabInIndentation
  | documentMarkInQuotes
  | endInQuotes
  | unknownEscape
  | expectedHexadecimal
  | invalidCodePoint
  | tabInPlain
  | expectedDocumentStart
  | repeatedVersionDirective
  | incompatibleVersion
  | repeatedTagDirective
  | undefinedTagHandle
  | expectedContent
  | expectedDash
  | expectedKey
  | expectedSequenceClose
  | expectedMappingClose
  | unknownAnchor (name : String)
  | selfContaining (name : String)
  | mergeNeedsMapping
  | wrongTag (found text wanted : String)
  | wrongBase64
  | exhausted
deriving Repr, DecidableEq, Inhabited

def Problem.text : Problem → String
  | controlCharacter => "control characters are not allowed"
  | expectedColon => "could not find expected ':'"
  | tooDeep => "exceeded max depth of 10000"
  | entryNotAllowed => "block sequence entries are not allowed in this context"
  | keyNotAllowed => "mapping keys are not allowed in this context"
  | valueNotAllowed => "mapping values are not allowed in this context"
  | cannotStartToken => "found character that cannot start any token"
  | unknownDirective => "found unknown directive name"
  | expectedCommentOrBreak => "did not find expected comment or line break"
  | expectedDirectiveName => "could not find expected directive name"
  | nonAlphabetical => "found unexpected non-alphabetical character"
  | expectedDigitOrDot => "did not find expected digit or '.' character"
  | longVersionNumber => "found extremely long version number"
  | expectedVersionNumber => "did not find expected version number"
  | expectedBlank => "did not find expected whitespace"
  | expectedBlankOrBreak => "did not find expected whitespace or line break"
  | expectedAlphanumeric => "did not find expected alphabetic or numeric character"
  | expectedTagClose => "did not find the expected '>'"
  | expectedTagMark => "did not find expected '!'"
  | expectedTagText => "did not find expected tag URI"
  | expectedEscapedOctet => "did not find URI escaped octet"
  | wrongLeadingOctet => "found an incorrect leading UTF-8 octet"
  | wrongTrailingOctet => "found an incorrect trailing UTF-8 octet"
  | zeroIndentation => "found an indentation indicator equal to 0"
  | tabInIndentation => "found a tab character where an indentation space is expected"
  | documentMarkInQuotes => "found unexpected document indicator"
  | endInQuotes => "found unexpected end of stream"
  | unknownEscape => "found unknown escape character"
  | expectedHexadecimal => "did not find expected hexdecimal number"
  | invalidCodePoint => "found invalid Unicode character escape code"
  | tabInPlain => "found a tab character that violates indentation"
  | expectedDocumentStart => "did not find expected <document start>"
  | repeatedVersionDirective => "found duplicate %YAML directive"
  | incompatibleVersion => "found incompatible YAML document"
  | repeatedTagDirective => "found duplicate %TAG directive"
  | undefinedTagHandle => "found undefined tag handle"
  | expectedContent => "did not find expected node content"
  | expectedDash => "did not find expected '-' indicator"
  | expectedKey => "did not find expected key"
  | expectedSequenceClose => "did not find expected ',' or ']'"
  | expectedMappingClose => "did not find expected ',' or '\x7d'"
  | unknownAnchor name => "unknown anchor '" ++ name ++ "' referenced"
  | selfContaining name => "anchor '" ++ name ++ "' value contains itself"
  | mergeNeedsMapping => "map merge requires map or sequence of maps as the value"
  | wrongTag found text wanted => "cannot decode " ++ found ++ " `" ++ text ++ "` as a " ++ wanted
  | wrongBase64 => "!!binary value contains invalid base64 data"
  | exhausted => "unknown problem parsing YAML content"

/-- A problem with the line it is reported at; `offset` is the character it was met at. -/
structure Fault where
  problem : Problem
  line : Nat := 0
  offset : Nat := 0
deriving Repr, DecidableEq, Inhabited

/-- A fault met while reading characters: the line where the construct began, or else the line where
reading stopped. -/
def Fault.lexical (problem : Problem) (began stopped : Mark) : Fault :=
  { problem
    line := if began.line ≠ 0 then began.line + 1
      else if stopped.line ≠ 0 then stopped.line + 1 else 0
    offset := stopped.index }

/-- A fault in the order of tokens: the lines that stand before the construct, or else before the
token at fault. -/
def Fault.structural (problem : Problem) (began stopped : Mark) : Fault :=
  { problem
    line := if began.line ≠ 0 then began.line else stopped.line
    offset := stopped.index }

def Fault.message (fault : Fault) : String :=
  "yaml: " ++ (if fault.line = 0 then "" else "line " ++ toString fault.line ++ ": ")
    ++ fault.problem.text

end FlowSpec.Yaml
