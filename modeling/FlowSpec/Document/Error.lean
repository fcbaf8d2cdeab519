import FlowSpec.ApiVersion
import FlowSpec.Schedule
import FlowSpec.Yaml.Decode
import FlowSpec.Yaml.Fault

/-! What can be wrong with a document, where, and how it is said. -/

set_option autoImplicit false

namespace FlowSpec.Document

/-- How a node is named in messages. -/
def describe : Yaml.Node → String
  | .mapping .. => "mapping"
  | .sequence .. => "sequence"
  | .scalar _ _ value => "scalar " ++ Text.quoted value
  | .reference .. => "node"

/-- A rule that a document breaks. -/
inductive Complaint where
  | unreadable (fault : Yaml.Fault)
  | problem (cause : Yaml.Problem)
  | mismatches (found : List Yaml.Mismatch)
  | apiVersion (error : ApiVersion.Error)
  | rootKind (found : String)
  | sectionKind (found : String)
  | unknownField (name : String)
  | missingField (name : String)
  | packageName (text : String)
  | windowAndPartition
  | endpointId (kind : String)
  | targetTransforms
  | endpointKind (name : String)
  | stateKind (found : String)
  | emptyReference
  | stateForm
  | stateType (found : String)
  | windowSize
  | windowSizes
  | unknownOperator (name : String)
  | inputKind (input kind : String)
  | keyValueOutput
  | declarationKind
  | listItems
  | optionValue
  | objectProperties
  | tagging (name : String)
  | variants
  | variantsKind
  | properties (type : String)
  | keyAndValue (type : String)
  | columnType (column : String)
  | unsupportedColumn (type column : String)
deriving Repr, Inhabited

def Complaint.message : Complaint → String
  | unreadable fault => fault.message
  | problem cause => "yaml: " ++ cause.text
  | mismatches found =>
    "yaml: unmarshal errors:\n  " ++ Text.join "\n  " (found.map Yaml.Mismatch.text)
  | apiVersion error => error.message
  | rootKind found => "document must be a mapping, found " ++ found
  | sectionKind found => "expected a mapping, found " ++ found
  | unknownField name => "unknown field `" ++ name ++ "`"
  | missingField name => "missing field `" ++ name ++ "`"
  | packageName text =>
    "invalid value: string " ++ Text.quoted text
      ++ ", expected a string of the form `<namespace>/<name>@<version>`"
  | windowAndPartition => "a service can define either `window` or `partition`, not both"
  | endpointId kind => kind ++ " reference requires an `id`"
  | targetTransforms => "no-target reference cannot have transforms"
  | endpointKind name =>
    "unknown variant `" ++ name ++ "`, expected one of `topic`, `no-target`, `schedule`"
  | stateKind found => "state entry must be a mapping, found " ++ found
  | emptyReference => "state reference `from` cannot be empty"
  | stateForm => "state entry requires one of `type`, `from` or `system`"
  | stateType found => "state type must be `keyed-state`, found `" ++ found ++ "`"
  | windowSize => "window requires `tumbling` or `sliding` properties"
  | windowSizes => "window cannot be both `tumbling` and `sliding`"
  | unknownOperator name => "unknown operator `" ++ name ++ "`"
  | inputKind input kind =>
    "input `" ++ input ++ "` has unknown kind `" ++ kind ++ "`, expected `key` or `value`"
  | keyValueOutput => "key-value output requires `properties` with `key` and `value`"
  | declarationKind => "type declaration must be a mapping with a `type` field"
  | listItems => "list type requires `items`"
  | optionValue => "option type requires `value`"
  | objectProperties => "object `properties` must be a mapping"
  | tagging name =>
    "unknown enum tagging `" ++ name ++ "`, expected `externally-tagged` or `untagged`"
  | variants => "enum type requires `oneOf`"
  | variantsKind => "enum `oneOf` must be a mapping"
  | properties type => type ++ " type requires `properties` with `key` and `value`"
  | keyAndValue type => type ++ " type requires both `key` and `value` properties"
  | columnType column => "arrow-row column `" ++ column ++ "` requires a `type`"
  | unsupportedColumn type column =>
    "unsupported arrow-row column type `" ++ type ++ "` for column `" ++ column ++ "`"

/-- A complaint at a place of the document; line zero is no line. -/
structure Malformed where
  path : String := ""
  line : Nat
  complaint : Complaint
deriving Repr, Inhabited

def joinPath (parent child : String) : String :=
  if parent.isEmpty then child else parent ++ "." ++ child

namespace Malformed

def message (error : Malformed) : String :=
  "syntax error" ++ (if error.path.isEmpty then "" else " at " ++ error.path)
    ++ (if error.line = 0 then "" else " (line " ++ toString error.line ++ ")")
    ++ ": " ++ error.complaint.message

/-- The same error seen from `path`; `line` is used where it has none of its own. -/
def within (path : String) (line : Nat) (error : Malformed) : Malformed :=
  { error with
    path := if error.path.isEmpty then path else joinPath path error.path
    line := if error.line = 0 then line else error.line }

/-- The error of a failed reading at `path`. -/
def ofFailure (path : String) (line : Nat) : Yaml.Failure Malformed → Malformed
  | .rule error => error.within path line
  | .problem problem => { path, line, complaint := .problem problem }
  | .mismatches found => { path, line, complaint := .mismatches found }

end Malformed

/-- A mapping that has a key twice. -/
structure DuplicateKey where
  path : String
  key : String
  line : Nat
  firstLine : Nat
deriving Repr, DecidableEq, Inhabited

def DuplicateKey.message (error : DuplicateKey) : String :=
  "duplicate key `" ++ error.key ++ "` in "
    ++ (if error.path.isEmpty then "document root" else error.path)
    ++ " at line " ++ toString error.line
    ++ " (first defined at line " ++ toString error.firstLine ++ ")"

inductive Error where
  | empty
  | malformed (error : Malformed)
  | duplicateKey (error : DuplicateKey)
  | unsupportedVersion (version : String)
  | schedule (error : Schedule.Error)
deriving Repr, Inhabited

def unsupportedVersionMessage (version : String) : String :=
  (if version.isEmpty then "missing apiVersion" else "apiVersion " ++ Text.quoted version)
    ++ ": ApiVersion not supported, try upgrading to 0.5.0"

def Error.message : Error → String
  | empty => "empty document"
  | malformed error => error.message
  | duplicateKey error => error.message
  | unsupportedVersion version => unsupportedVersionMessage version
  | schedule error => error.message

end FlowSpec.Document
