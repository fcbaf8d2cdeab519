import FlowSpec.Version

/-! Versions of the document format. A version is written as a semantic version and kept as
written. -/

set_option autoImplicit false

namespace FlowSpec

structure ApiVersion where
  text : String
  version : Version
deriving Repr, DecidableEq, Inhabited

namespace ApiVersion

structure Error where
  text : String
  cause : VersionError
deriving Repr, DecidableEq, Inhabited

def Error.message (error : Error) : String :=
  "invalid apiVersion " ++ Text.quoted error.text ++ ": " ++ error.cause.message

def parse (text : String) : Except Error ApiVersion :=
  match Version.parse text with
  | .ok version => .ok { text, version }
  | .error cause => .error { text, cause }

/-- Belongs to the series `0.minor`. -/
def isSeries (minor : Nat) (self : ApiVersion) : Bool :=
  self.version.segments.take 2 == [0, minor]

/-- The series in which names for reading and writing are unset by default. -/
def isV5 (self : ApiVersion) : Bool := self.isSeries 5

def isV6 (self : ApiVersion) : Bool := self.isSeries 6

/-- Older than the first current version. -/
def isLegacy (self : ApiVersion) : Bool := self.version.olderThanRelease [0, 5, 0]

/-- Dataflows of these versions keep no more than their header. -/
def legacyDataflows : List String := ["0.1.0", "0.2.0", "0.3.0", "0.4.0"]

def currentDataflows : List String := ["0.5.0", "0.6.0"]

def packages : List String := ["0.4.0", "0.5.0", "0.6.0"]

end ApiVersion

end FlowSpec
