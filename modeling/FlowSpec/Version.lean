import FlowSpec.Text.Number
import FlowSpec.Text.Split

/-!
Semantic versions: numbers parted by dots, an optional pre-release part behind a dash and optional
build information behind a plus sign. Versions with fewer than three numbers are filled up with
zeros.
-/

set_option autoImplicit false

namespace FlowSpec

structure Version where
  segments : List Nat
  prerelease : String := ""
deriving Repr, DecidableEq, Inhabited

inductive VersionError where
  | malformed (text : String)
  | outOfRange (segment : String)
deriving Repr, DecidableEq, Inhabited

def VersionError.message : VersionError → String
  | malformed text => "malformed version: " ++ text
  | outOfRange segment =>
    "error parsing version: " ++ Text.readingMessage "ParseInt" segment .outOfRange

namespace Version

def isLabelChar (c : Char) : Bool :=
  ('0' ≤ c && c ≤ '9') || ('a' ≤ c && c ≤ 'z') || ('A' ≤ c && c ≤ 'Z') || c = '-' || c = '~'

/-- Labels parted by dots, none of them empty. -/
def isLabels (cs : List Char) : Bool :=
  (Text.splitAux ['.'] cs 0 []).all fun label => !label.isEmpty && label.all isLabelChar

/-- Numbers parted by dots, none of them empty. -/
def isNumbers (cs : List Char) : Bool :=
  (Text.splitAux ['.'] cs 0 []).all fun part => !part.isEmpty && part.all Text.isDecimal

/-- The parts in front of and behind the first `c`. -/
def breakAt (c : Char) (cs : List Char) : List Char × Option (List Char) :=
  (cs.takeWhile (· ≠ c), (cs.dropWhile (· ≠ c)).tail?)

def parse (text : String) : Except VersionError Version :=
  let body := match text.toList with
    | 'v' :: rest => rest
    | cs => cs
  let (body, build) := breakAt '+' body
  let (numbers, labels) := breakAt '-' body
  if isNumbers numbers && labels.all isLabels && build.all isLabels then
    let parts := Text.splitAux ['.'] numbers 0 []
    match parts.find? fun part => Word.half ≤ Text.decimalValue part with
    | some part => .error (.outOfRange (String.ofList part))
    | none =>
      let segments := parts.map Text.decimalValue
      .ok { segments := segments ++ List.replicate (3 - segments.length) 0
            prerelease := String.ofList (labels.getD []) }
  else .error (.malformed text)

/-- Lexicographic order of segments, where missing ones count as zero. -/
def segmentsBefore : List Nat → List Nat → Bool
  | [], bs => bs.any (· ≠ 0)
  | _, [] => false
  | a :: as, b :: bs => a < b || (a = b && segmentsBefore as bs)

/-- Older than a release: smaller numbers, or a pre-release of the very same numbers. -/
def olderThanRelease (version : Version) (release : List Nat) : Bool :=
  if version.segments = release then version.prerelease ≠ ""
  else segmentsBefore version.segments release

end Version

end FlowSpec
