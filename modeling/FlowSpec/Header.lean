import FlowSpec.Json
import FlowSpec.Text.Split
import FlowSpec.Version

/-!
Package headers: owner, name and version. A header has two written forms, `owner/name@version` and
the form with double underscores that can name a file. The parts of a valid header hold none of the
separators, so both forms read back.
-/

set_option autoImplicit false

namespace FlowSpec

structure Header where
  owner : String := ""
  name : String := ""
  version : String := ""
deriving Repr, DecidableEq, Inhabited

namespace Header

/-- A text that is not one of the written forms. -/
inductive ParseError where
  | package
  | canonical
deriving Repr, DecidableEq, Inhabited

def ParseError.message : ParseError → String
  | package => "invalid package name format, it should be namespace/name@version"
  | canonical => "invalid header format, it should be namespace__name__version"

/-- Reads `owner/name@version`. -/
def parse (text : String) : Except ParseError Header :=
  match Text.split "/" text with
  | [owner, rest] =>
    match Text.split "@" rest with
    | [name, version] => .ok { owner, name, version }
    | _ => .error .package
  | _ => .error .package

/-- Reads `owner__name__version`. -/
def parseCanonical (text : String) : Except ParseError Header :=
  match Text.split "__" text with
  | [owner, name, version] => .ok { owner, name, version }
  | _ => .error .canonical

def text (header : Header) : String := header.owner ++ "/" ++ header.name ++ "@" ++ header.version

/-- The form that can name a file. -/
def canonical (header : Header) : String :=
  header.owner ++ "__" ++ header.name ++ "__" ++ header.version

/-- What packages are indexed by. -/
def key (header : Header) : String := header.owner ++ ":" ++ header.name ++ ":" ++ header.version

/-- Why a part cannot stand in the written forms. An underscore at either end would merge into a
separator beside it. -/
def separatorClash (part : String) : Option String :=
  match ["/", "@", "__"].find? fun sep => Text.contains sep.toList part.toList with
  | some sep => some ("cannot contain `" ++ sep ++ "`")
  | none =>
    if part.toList.head? = some '_' || part.toList.getLast? = some '_' then
      some "cannot start or end with `_`"
    else none

def clashProblems (label part : String) : List String :=
  match separatorClash part with
  | some reason => [label ++ " `" ++ part ++ "` " ++ reason]
  | none => []

def versionProblems (version : String) : List String :=
  if version.isEmpty then ["Version cannot be empty"]
  else match Version.parse version with
    | .ok _ => []
    | .error _ => ["Version `" ++ version ++ "` is not a valid semantic version"]

/-- What is wrong with a header; a valid one has all parts, none with a separator, and a semantic
version. -/
def problems (header : Header) : List String :=
  (if header.name.isEmpty then ["Name cannot be empty"] else [])
    ++ (if header.owner.isEmpty then ["Namespace cannot be empty"] else [])
    ++ clashProblems "Name" header.name
    ++ clashProblems "Namespace" header.owner
    ++ clashProblems "Version" header.version
    ++ versionProblems header.version

def toJson (header : Header) : Json :=
  .object [("namespace", .text header.owner), ("name", .text header.name),
    ("version", .text header.version)]

end Header

end FlowSpec
