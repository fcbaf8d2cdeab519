import FlowSpec.Avro.Error
import FlowSpec.Avro.Value
import FlowSpec.Json.Read
import FlowSpec.Text.LetterCase

/-!
The members of a schema's JSON object, with their expected types. A member is found under its exact
name, or else under a name that differs in letter case alone. A null counts as present and empty.
-/

set_option autoImplicit false

namespace FlowSpec.Avro

/-- What kind of value a member holds. -/
inductive Expected where
  | text (type : String)
  | texts
  | objects
  | int
  | any
deriving Repr, DecidableEq, Inhabited

abbrev Members := List (String × Json)

def Members.get? (members : Members) (name : String) : Option Json :=
  (members.lookup name).orElse fun _ =>
    (members.find? fun member => Text.lowered member.1 == Text.lowered name).map Prod.snd

/-- The word for the type of a value. -/
def valueType : Json → String
  | .null => "nil"
  | .bool _ => "bool"
  | .int _ | .decimal _ => "float64"
  | .text _ => "string"
  | .list _ => "[]interface \x7b\x7d"
  | .object _ => "map[string]interface \x7b\x7d"

def valueKind : Json → String
  | .null => "invalid"
  | .bool _ => "bool"
  | .int _ | .decimal _ => "float64"
  | .text _ => "string"
  | .list _ => "slice"
  | .object _ => "map"

def unconvertible (path expected : String) (value : Json) : String :=
  "'" ++ path ++ "' expected type '" ++ expected ++ "', got unconvertible type '" ++ valueType value
    ++ "', value: '" ++ shown value ++ "'"

/-- The path of an item of a list. -/
def itemPath (path : String) (index : Nat) : String := path ++ "[" ++ toString index ++ "]"

/-- What is wrong with a value. -/
def Expected.problems (path : String) (value : Json) : Expected → List String
  | any => []
  | text type => match value with
    | .null | .text _ => []
    | other => [unconvertible path type other]
  | int => match value with
    | .null | .int _ | .decimal _ => []
    | other => [unconvertible path "int" other]
  | texts => match value with
    | .null => []
    | .list items => items.zipIdx.flatMap fun (item, index) => match item with
      | .null | .text _ => []
      | other => [unconvertible (itemPath path index) "string" other]
    | other => ["'" ++ path ++ "': source data must be an array or slice, got " ++ valueKind other]
  | objects => match value with
    | .null => []
    | .list items => items.zipIdx.flatMap fun (item, index) => match item with
      | .null | .object _ => []
      | other => ["'" ++ itemPath path index ++ "' expected a map, got '" ++ valueKind other ++ "'"]
    | other => ["'" ++ path ++ "': source data must be an array or slice, got " ++ valueKind other]

/-- Holds the members of an object against what is expected of them. -/
def Members.check (members : Members) (what : String) (expected : List (String × Expected)) :
    Except SchemaError Unit :=
  let problems := expected.flatMap fun (name, kind) =>
    match members.get? name with
    | some value => kind.problems name value
    | none => []
  if problems.isEmpty then .ok () else .error (.decoding what problems)

def Members.has (members : Members) (name : String) : Bool := (members.get? name).isSome

def Members.text (members : Members) (name : String) : String :=
  match members.get? name with
  | some (.text value) => value
  | _ => ""

def Members.items (members : Members) (name : String) : List Json :=
  match members.get? name with
  | some (.list items) => items
  | _ => []

/-- The whole part of a number, toward zero. -/
def wholePart : Json → Int
  | .int value => value
  | .decimal literal =>
    let number := Decimal.ofLiteral literal
    let digits := if number.exponent ≥ 0 then
        number.digits ++ List.replicate number.exponent.toNat '0'
      else number.digits.take (number.digits.length - number.exponent.natAbs)
    let size : Int := Text.decimalValue digits
    if number.isNegative then -size else size
  | _ => 0

def Members.int (members : Members) (name : String) : Int :=
  ((members.get? name).map wholePart).getD 0

/-- The text of an item; anything else counts as empty. -/
def itemText : Json → String
  | .text value => value
  | _ => ""

def Members.texts (members : Members) (name : String) : List String :=
  (members.items name).map itemText

/-- The members of an item; anything else has none. -/
def itemMembers : Json → Members
  | .object members => members
  | _ => []

end FlowSpec.Avro
