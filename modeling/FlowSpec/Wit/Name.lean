import FlowSpec.Text.LetterCase
import FlowSpec.Text.Split
import FlowSpec.Type.Primitive

/-!
Identifiers of interface descriptions. Names in any of the usual spellings become words in lower
case with hyphens between them, and digits stay attached to the word before them.
-/

set_option autoImplicit false

namespace FlowSpec.Wit

/-- Between `before` and an upper case letter that `next` follows a new word begins. -/
def isBoundary (before : Char) (next : Option Char) : Bool :=
  Text.isLower before || Text.isDigit before || (Text.isUpper before && next.any Text.isLower)

def isSeparator (c : Char) : Bool := c == '-' || c == '_' || Text.isSpace c

/-- A finished word, unless it is empty. -/
def finishWord (word : List Char) : List (List Char) := if word.isEmpty then [] else [word.reverse]

/-- The words of a text; `word` is the one being read, last character first. -/
def splitWords : List Char → List Char → List (List Char)
  | [], word => finishWord word
  | c :: rest, word =>
    if isSeparator c then finishWord word ++ splitWords rest []
    else match word with
      | before :: _ =>
        if Text.isUpper c && isBoundary before rest.head? then word.reverse :: splitWords rest [c]
        else splitWords rest (c :: word)
      | [] => splitWords rest [c]

/-- Words that begin with a digit follow without a hyphen. -/
def joinWords : List (List Char) → List Char
  | [] => []
  | word :: rest => word ++ rest.flatMap fun next =>
    match next with
    | c :: _ => if '0' ≤ c && c ≤ '9' then next else '-' :: next
    | [] => ['-']

/-- The words of a text in lower case, with hyphens between them. -/
def normalName (text : String) : String :=
  String.ofList (joinWords ((splitWords text.toList []).map fun word => word.map Text.lowerChar))

/-- Words that mean something in interface descriptions. -/
def keywords : List String :=
  ["record", "variant", "enum", "flags", "resource", "type", "world", "interface", "use", "package",
    "func", "import", "export", "include", "with", "as", "from", "static", "constructor", "own",
    "borrow", "bool", "string", "char", "s8", "s16", "s32", "s64", "u8", "u16", "u32", "u64",
    "f32", "f64", "list", "option", "result", "tuple"]

def isKeyword (name : String) : Bool := keywords.contains name

/-- The normal name; a keyword is marked. -/
def identifier (text : String) : String :=
  let name := normalName text
  if isKeyword name then "%" ++ name else name

end FlowSpec.Wit
