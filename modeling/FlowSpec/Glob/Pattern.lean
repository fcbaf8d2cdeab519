import FlowSpec.Text.Split

/-!
Patterns for paths: `*` is any run of characters and `?` any character of one part of a path, `[…]`
a class of characters, `{…,…}` a choice, `**` any run of folders, and a backslash takes the meaning
off the next character.
-/

set_option autoImplicit false

namespace FlowSpec.Glob

def isMeta (c : Char) : Bool := c == '*' || c == '?' || c == '[' || c == '\x7b'

/-- Whether a pattern is more than a plain path. -/
def hasMeta : List Char → Bool
  | [] => false
  | '\\' :: [] => false
  | '\\' :: _ :: rest => hasMeta rest
  | c :: rest => isMeta c || hasMeta rest

/-- A path without its backslashes. -/
def unescape : List Char → List Char
  | [] => []
  | '\\' :: [] => ['\\']
  | '\\' :: c :: rest => c :: unescape rest
  | c :: rest => c :: unescape rest

/-- What stands behind the mark that turns a class around. -/
def dropNegation : List Char → Bool × List Char
  | '!' :: rest => (true, rest)
  | '^' :: rest => (true, rest)
  | cs => (false, cs)

/-- Where a check of a pattern is: between parts, or inside a class. -/
inductive Place where
  | outside
  | classStart
  | classFirst
  | inClass
deriving Repr, DecidableEq, Inhabited

/-- Classes must end and hold something, choices must be closed, and nothing ends in a backslash.
`depth` counts the choices that are open. -/
def isValidAux : Place → Nat → List Char → Bool
  | .outside, depth, [] => depth = 0
  | _, _, [] => false
  | .outside, _, '\\' :: [] => false
  | .outside, depth, '\\' :: _ :: rest => isValidAux .outside depth rest
  | .outside, depth, '[' :: rest => isValidAux .classStart depth rest
  | .outside, depth, '\x7b' :: rest => isValidAux .outside (depth + 1) rest
  | .outside, 0, '\x7d' :: _ => false
  | .outside, depth + 1, '\x7d' :: rest => isValidAux .outside depth rest
  | .outside, depth, _ :: rest => isValidAux .outside depth rest
  | .classStart, depth, '!' :: rest => isValidAux .classFirst depth rest
  | .classStart, depth, '^' :: rest => isValidAux .classFirst depth rest
  | .classStart, _, ']' :: _ => false
  | .classFirst, _, ']' :: _ => false
  | .inClass, depth, ']' :: rest => isValidAux .outside depth rest
  | _, _, '\\' :: [] => false
  | _, depth, '\\' :: _ :: rest => isValidAux .inClass depth rest
  | _, depth, _ :: rest => isValidAux .inClass depth rest

def isValid (pattern : String) : Bool := isValidAux .outside 0 pattern.toList

/-! ### Matching one part of a path -/

/-- Whether a character is in the body of a class. `last` is the character a range may start
from. -/
def classHolds (c : Char) : Option Char → List Char → Bool
  | _, [] => false
  | some low, '-' :: '\\' :: high :: rest => (low ≤ c && c ≤ high) || classHolds c none rest
  | some low, '-' :: high :: rest => (low ≤ c && c ≤ high) || classHolds c none rest
  | _, '\\' :: d :: rest => d == c || classHolds c (some d) rest
  | _, d :: rest => d == c || classHolds c (some d) rest

/-- The body of a class, and what follows its end. -/
def splitClass : List Char → List Char → List Char × List Char
  | body, [] => (body.reverse, [])
  | body, ']' :: rest => (body.reverse, rest)
  | body, '\\' :: c :: rest => splitClass (c :: '\\' :: body) rest
  | body, c :: rest => splitClass (c :: body) rest

/-- Whether a pattern without slashes and choices matches a name. Every step takes a character of
one of the two, so their number bounds `fuel`. -/
def matchesAux : Nat → List Char → List Char → Bool
  | 0, _, _ => false
  | fuel + 1, pattern, name =>
    match pattern with
    | [] => name.isEmpty
    | '*' :: rest =>
      matchesAux fuel rest name || match name with
        | [] => false
        | _ :: more => matchesAux fuel pattern more
    | '?' :: rest => match name with
      | [] => false
      | _ :: more => matchesAux fuel rest more
    | '[' :: rest => match name with
      | [] => false
      | c :: more =>
        let (isNegated, inside) := dropNegation rest
        let (body, behind) := splitClass [] inside
        classHolds c none body != isNegated && matchesAux fuel behind more
    | '\\' :: d :: rest => match name with
      | [] => false
      | c :: more => d == c && matchesAux fuel rest more
    | d :: rest => match name with
      | [] => false
      | c :: more => d == c && matchesAux fuel rest more

def matchesName (pattern : List Char) (name : String) : Bool :=
  matchesAux (pattern.length + name.length + 1) pattern name.toList

/-! ### Cutting patterns -/

/-- The folder in front of the first part that is more than a name, and the rest. -/
def splitBaseAux (before : List Char) (found : Option (List Char × List Char)) :
    List Char → Option (List Char × List Char)
  | [] => found
  | '\\' :: [] => found
  | '\\' :: c :: rest => splitBaseAux (c :: '\\' :: before) found rest
  | '/' :: rest => splitBaseAux ('/' :: before) (some (before.reverse, rest)) rest
  | c :: rest => if isMeta c then found else splitBaseAux (c :: before) found rest

/-- A pattern as a folder and a pattern inside of it. -/
def splitBase (pattern : String) : String × List Char :=
  match splitBaseAux [] none pattern.toList with
  | none => (".", pattern.toList)
  | some ([], rest) => ("/", rest)
  | some (base, rest) => (String.ofList base, rest)

/-- A place where a pattern is cut: what stands before, the mark, and what follows. -/
structure Cut where
  before : List Char
  mark : Char
  behind : List Char
deriving Repr, DecidableEq, Inhabited

/-- Cuts at the last of some marks that has no backslash before it. The pattern is given last
character first. -/
def lastCutAux (isMark : Char → Bool) : List Char → List Char → Option Cut
  | [], _ => none
  | c :: rest, behind =>
    if isMark c && rest.head? ≠ some '\\' then some { before := rest.reverse, mark := c, behind }
    else lastCutAux isMark rest (c :: behind)

def lastCut? (isMark : Char → Bool) (pattern : List Char) : Option Cut :=
  lastCutAux isMark pattern.reverse []

/-- Cuts at the opening of the choice that a pattern is inside of at its end. -/
def openingCutAux : Nat → List Char → List Char → Option Cut
  | _, [], _ => none
  | depth, c :: rest, behind =>
    let isPlain := rest.head? ≠ some '\\'
    if c == '\x7d' && isPlain then openingCutAux (depth + 1) rest (c :: behind)
    else if c == '\x7b' && isPlain then
      match depth with
      | 0 => some { before := rest.reverse, mark := c, behind }
      | depth + 1 => openingCutAux depth rest (c :: behind)
    else openingCutAux depth rest (c :: behind)

def openingCut? (pattern : List Char) : Option Cut := openingCutAux 0 pattern.reverse []

/-- The alternatives of a choice, cut at the commas outside of inner choices. A comma at the end has
no empty alternative behind it. -/
def alternativesAux : Nat → List Char → List Char → List (List Char)
  | _, current, [] => if current.isEmpty then [] else [current.reverse]
  | depth, current, '\\' :: c :: rest => alternativesAux depth (c :: '\\' :: current) rest
  | depth, current, '\x7b' :: rest => alternativesAux (depth + 1) ('\x7b' :: current) rest
  | depth, current, '\x7d' :: rest => alternativesAux (depth - 1) ('\x7d' :: current) rest
  | 0, current, ',' :: rest => current.reverse :: alternativesAux 0 [] rest
  | depth, current, c :: rest => alternativesAux depth (c :: current) rest

def alternatives (choice : List Char) : List (List Char) := alternativesAux 0 [] choice

/-- Whether `**` stands anywhere but at the very end. -/
def hasInnerDoubleStar : List Char → Bool
  | '*' :: '*' :: rest => !rest.isEmpty
  | '\\' :: _ :: rest => hasInnerDoubleStar rest
  | _ :: rest => hasInnerDoubleStar rest
  | [] => false

end FlowSpec.Glob
