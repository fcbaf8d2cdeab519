import FlowSpec.Json

/-! Inline code of a step: its text, language and extra libraries, and the function it defines. -/

set_option autoImplicit false

namespace FlowSpec

/-- A library that inline code needs. -/
structure Dependency where
  name : String := ""
  version : String := ""
  path : String := ""
deriving Repr, DecidableEq, Inhabited

structure Code where
  source : String := ""
  language : String := "rust"
  dependencies : List Dependency := []
deriving Repr, DecidableEq, Inhabited

namespace Code

def isBlank (c : Char) : Bool := c == ' ' || c == '\t' || c == '\n' || c == '\x0c' || c == '\r'

def isNameStart (c : Char) : Bool :=
  ('a' ≤ c && c ≤ 'z') || ('A' ≤ c && c ≤ 'Z') || c == '_'

def isNameChar (c : Char) : Bool := isNameStart c || ('0' ≤ c && c ≤ '9')

/-- The name behind a keyword: blanks, a name, and an opening bracket that blanks may precede. -/
def nameAfterKeyword (cs : List Char) : Option (List Char) :=
  match cs with
  | [] => none
  | c :: _ =>
    let rest := cs.dropWhile isBlank
    let name := rest.takeWhile isNameChar
    match name.head?, (rest.dropWhile isNameChar).dropWhile isBlank with
    | some first, '(' :: _ => if isBlank c && isNameStart first then some name else none
    | _, _ => none

/-- The first function that a text defines; definitions start with `keyword`, anywhere in the
text. -/
def definedName (keyword : List Char) : List Char → Option (List Char)
  | [] => none
  | c :: cs =>
    let here := if keyword.isPrefixOf (c :: cs) then
      nameAfterKeyword ((c :: cs).drop keyword.length) else none
    here.orElse fun _ => definedName keyword cs

/-- The name of the first function of the code; empty in languages without a known keyword. -/
def functionName (code : Code) : String :=
  match [("rust", "fn"), ("python", "def")].lookup code.language with
  | some keyword => String.ofList ((definedName keyword.toList code.source.toList).getD [])
  | none => ""

end Code

def Dependency.toJson (dependency : Dependency) : Json :=
  .object ([("name", .text dependency.name)] ++ Json.textUnlessEmpty "version" dependency.version
    ++ Json.textUnlessEmpty "path" dependency.path)

def Code.toJson (code : Code) : Json :=
  .object (Json.textUnlessEmpty "code" code.source ++ [("lang", .text code.language)]
    ++ Json.listUnlessEmpty "extraDeps" (code.dependencies.map Dependency.toJson))

end FlowSpec
