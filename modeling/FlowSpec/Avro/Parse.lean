import FlowSpec.Avro.Member
import FlowSpec.Avro.Schema

/-!
Schemas from JSON. A named type may be defined once and is known by its full name from the start of
its own definition, so records can mention themselves.
-/

set_option autoImplicit false

namespace FlowSpec.Avro

/-! ### Names -/

def isNameStart (c : Char) : Bool :=
  ('a' ≤ c && c ≤ 'z') || ('A' ≤ c && c ≤ 'Z') || c == '_'

def isNameChar (c : Char) : Bool := isNameStart c || ('0' ≤ c && c ≤ '9')

def checkName (name : String) : Except NameFault Unit :=
  match name.toList with
  | [] => .error .missing
  | first :: rest =>
    if isNameStart first && rest.all isNameChar then .ok () else .error (.malformed name)

/-- A name of a type: the namespace of a dotted name is in the name itself. -/
structure TypeName where
  owner : String
  name : String
deriving Repr, DecidableEq, Inhabited

def TypeName.make (name owner : String) : TypeName :=
  match (Text.split "." name).reverse with
  | [] | [_] => { owner := owner, name := name }
  | last :: before => { owner := Text.join "." before.reverse, name := last }

def TypeName.full (name : TypeName) : String :=
  if name.owner.isEmpty then name.name else name.owner ++ "." ++ name.name

def checkParts (full dotted : String) : Except SchemaError Unit :=
  (Text.split "." dotted).forM fun part =>
    (checkName part).mapError (SchemaError.namePart full part)

/-- Checks the name and those of its aliases that have dots. -/
def TypeName.check (name : TypeName) (aliases : List String) : Except SchemaError Unit := do
  checkParts name.full name.full
  (aliases.filter fun other => (Text.split "." other).length > 1).forM (checkParts name.full)

/-- The full name that a reference means inside a namespace. -/
def qualified (owner name : String) : String :=
  if owner.isEmpty || (Text.split "." name).length > 1 then name else owner ++ "." ++ name

/-! ### Logical types -/

def primitiveNames : List String :=
  ["string", "bytes", "int", "long", "float", "double", "boolean", "null"]

/-- How many digits a number may have and always fit the bits; the fraction is the decimal logarithm
of two. -/
def digitsInBits (bits : Int) : Int := bits * 30102999566398119521 / 100000000000000000000

def decimal? (members : Members) (size : Option Int) : Option Logical :=
  let precision := members.int "precision"
  let scale := members.int "scale"
  let fits := match size with
    | some bytes => bytes ≤ 0 || precision ≤ digitsInBits (8 * bytes - 1)
    | none => true
  match members.check "" [("precision", .int), ("scale", .int)] with
  | .error _ => none
  | .ok _ =>
    if precision > 0 && 0 ≤ scale && scale ≤ precision && fits then some (.decimal precision scale)
    else none

/-- The logical types that an encoding can stand for. -/
def primitiveLogical? (type : String) (members : Members) : Option Logical :=
  match members.lookup "logicalType" with
  | some (.text name) =>
    let named (types : List String) : Option Logical :=
      if types.contains name then some (.named name) else none
    match type with
    | "string" => named ["uuid"]
    | "int" => named ["date", "time-millis"]
    | "long" => named ["time-micros", "timestamp-millis", "timestamp-micros",
        "local-timestamp-millis", "local-timestamp-micros"]
    | "bytes" => if name == "decimal" then decimal? members none else none
    | _ => none
  | _ => none

def fixedLogical? (size : Int) (members : Members) : Option Logical :=
  match members.lookup "logicalType" with
  | some (.text "duration") => if size = 12 then some (.named "duration") else none
  | some (.text "decimal") => decimal? members (some size)
  | _ => none

/-! ### Defaults -/

/-- The named types defined so far. A record that is still being defined has no fields yet. -/
structure Known where
  types : List (String × Schema) := []
  defined : List String := []
deriving Repr, Inhabited

/-- Whether a value can stand for a missing one. A union takes the values of its first branch.
Schemas nest no deeper than `fuel`, references included. -/
def acceptsDefault (known : Known) : Nat → Schema → Json → Bool
  | 0, _, _ => false
  | fuel + 1, schema, value =>
    match schema, value with
    | .reference name, value => match known.types.lookup name with
      | some target => acceptsDefault known fuel target value
      | none => false
    | .primitive "null" _, .null => true
    | .primitive "string" _, .text _ => true
    | .primitive "bytes" _, .text _ => true
    | .primitive "boolean" _, .bool _ => true
    | .primitive "int" _, .int _ => true
    | .primitive "int" _, .decimal _ => true
    | .primitive "long" _, .int _ => true
    | .primitive "long" _, .decimal _ => true
    | .primitive "float" _, .int _ => true
    | .primitive "float" _, .decimal _ => true
    | .primitive "double" _, .int _ => true
    | .primitive "double" _, .decimal _ => true
    | .fixed _ _ _, .text _ => true
    | .enumeration _ symbols, .text symbol => symbols.contains symbol
    | .union (first :: _), value => acceptsDefault known fuel first value
    | .array items, .list values => values.all (acceptsDefault known fuel items)
    | .map values, .object members =>
      members.all fun member => acceptsDefault known fuel values member.2
    | .record _ _ fields, .object members => fields.all fun (name, type) =>
      match members.lookup name with
      | some value => acceptsDefault known fuel type value
      | none => false
    | _, _ => false

/-! ### Schemas -/

abbrev Parse := StateT Known (Except SchemaError)

/-- Makes a new name known, under its aliases too. -/
def define (name : TypeName) (aliases : List String) (schema : Schema) : Parse Unit := do
  let known ← get
  if known.defined.contains name.full then throw (.repeatedName name.full)
  else set { known with
    types := (name.full :: aliases.map (qualified name.owner)).map (·, schema) ++ known.types
    defined := name.full :: known.defined }

/-- The reference that a known name stands for. -/
def referenceTo (owner name : String) : Parse Schema := do
  match (← get).types.lookup (qualified owner name) with
  | some (.record full _ _) => return .reference full
  | some (.enumeration full _) => return .reference full
  | some (.fixed full _ _) => return .reference full
  | _ => throw (.unknownType name)

def parseName (owner name : String) : Parse Schema :=
  if primitiveNames.contains name then return .primitive name none else referenceTo owner name

/-- The name of a definition. -/
def definedName (members : Members) (owner : String) : Except SchemaError TypeName :=
  if (members.text "name").isEmpty then .error .nameRequired
  else if members.has "namespace" && (members.text "namespace").isEmpty then .error .emptyNamespace
  else
    let given := members.text "namespace"
    .ok (TypeName.make (members.text "name") (if given.isEmpty then owner else given))

def namedMembers : List (String × Expected) :=
  [("type", .text "string"), ("name", .text "string"), ("namespace", .text "string"),
    ("aliases", .texts), ("doc", .text "string")]

def checkSymbols (symbols : List String) : Except SchemaError Unit :=
  symbols.forM fun symbol => (checkName symbol).mapError fun _ => SchemaError.malformedSymbol symbol

def parseEnumeration (owner : String) (members : Members) : Parse Schema := do
  members.check "enum" (namedMembers ++ [("symbols", .texts), ("default", .text "string")])
  let name ← definedName members owner
  let aliases := members.texts "aliases"
  name.check aliases
  let symbols := members.texts "symbols"
  if symbols.isEmpty then throw .symbolsRequired
  checkSymbols symbols
  let default := members.text "default"
  if !default.isEmpty && !symbols.contains default then throw (.defaultSymbol default)
  let schema := Schema.enumeration name.full symbols
  define name aliases schema
  return schema

def parseFixed (owner : String) (members : Members) : Parse Schema := do
  members.check "fixed" (namedMembers ++ [("size", .int)])
  let name ← definedName members owner
  let aliases := members.texts "aliases"
  if !members.has "size" then throw .sizeRequired
  name.check aliases
  let size := members.int "size"
  let schema := Schema.fixed name.full size (fixedLogical? size members)
  define name aliases schema
  return schema

def checkBranches (seen : List String) : List Schema → Except SchemaError Unit
  | [] => .ok ()
  | branch :: rest =>
    if branch.isUnion then .error .nestedUnion
    else if seen.contains branch.branchName then .error .repeatedBranch
    else checkBranches (branch.branchName :: seen) rest

/-- Checks everything about a field but its type. -/
def checkField (members : Members) (type : Schema) : Parse Unit := do
  let name := members.text "name"
  (name :: members.texts "aliases").forM fun word => (checkName word).mapError SchemaError.fieldName
  let order := members.text "order"
  if !(["", "ascending", "descending", "ignore"].contains order) then throw (.fieldOrder name order)
  match members.get? "default" with
  | none => return
  | some value =>
    let known ← get
    if acceptsDefault known
        (known.types.length * (value.depth + 1) + value.depth + 3) type value then return
    else throw (.fieldDefault name (shown value) type.kind)

/-- How the schemas inside a schema are read, given the namespace around them. -/
abbrev Inner := String → Json → Parse Schema

def parseUnion (inner : Inner) (owner : String) (branches : List Json) : Parse Schema := do
  let branches ← branches.mapM (inner owner)
  checkBranches [] branches
  return .union branches

def parseField (inner : Inner) (owner : String) (members : Members) : Parse (String × Schema) := do
  members.check "field" [("name", .text "string"), ("aliases", .texts), ("type", .any),
    ("doc", .text "string"), ("default", .any), ("order", .text "avro.Order")]
  if (members.text "name").isEmpty then throw .nameRequired
  match members.get? "type" with
  | none => throw .fieldTypeRequired
  | some type =>
    let type ← inner owner type
    checkField members type
    return (members.text "name", type)

/-- Gives a record its fields. -/
def Known.complete (known : Known) (name : String) (schema : Schema) : Known :=
  { known with types := known.types.map fun (other, old) =>
      match old with
      | .record full _ _ => if full == name then (other, schema) else (other, old)
      | _ => (other, old) }

def parseRecord (inner : Inner) (isError : Bool) (owner : String) (members : Members) :
    Parse Schema := do
  members.check "record" (namedMembers ++ [("fields", .objects)])
  let name ← definedName members owner
  if !members.has "fields" then throw .fieldsRequired
  let aliases := members.texts "aliases"
  name.check aliases
  define name aliases (.record name.full isError [])
  let fields ← (members.items "fields").mapM fun item =>
      parseField inner name.owner (itemMembers item)
  let schema := Schema.record name.full isError fields
  modify (·.complete name.full schema)
  return schema

/-- A schema that has one schema inside it under a name. -/
def parseWrapped (inner : Inner) (owner what member : String) (missing : SchemaError)
    (members : Members) : Parse Schema := do
  members.check what [("type", .text "string"), (member, .any)]
  match members.get? member with
  | some value => inner owner value
  | none => throw missing

def parseObject (inner : Inner) (owner : String) (members : Members) : Parse Schema :=
  match members.lookup "type" with
  | some (.list branches) => parseUnion inner owner branches
  | some (.text "null") => return .primitive "null" none
  | some (.text "record") => parseRecord inner false owner members
  | some (.text "error") => parseRecord inner true owner members
  | some (.text "enum") => parseEnumeration owner members
  | some (.text "fixed") => parseFixed owner members
  | some (.text "array") =>
    return .array (← parseWrapped inner owner "array" "items" .itemsRequired members)
  | some (.text "map") =>
    return .map (← parseWrapped inner owner "map" "values" .valuesRequired members)
  | some (.text type) =>
    if primitiveNames.contains type then return .primitive type (primitiveLogical? type members)
    else referenceTo owner type
  | _ => throw (.unknownType (shown (.object members)))

/-- The schema of a JSON value inside a namespace. Values nest no deeper than `fuel`. -/
def parseType : Nat → Inner
  | 0, _, json => throw (.unknownType (shown json))
  | fuel + 1, owner, json =>
    match json with
    | .null => return .primitive "null" none
    | .text name => parseName owner name
    | .list branches => parseUnion (parseType fuel) owner branches
    | .object members => parseObject (parseType fuel) owner members
    | other => throw (.unknownType (shown other))

/-- The schema of a JSON value. -/
def ofJson (json : Json) : Except SchemaError Schema :=
  return (← (parseType (json.depth + 1) "" json).run {}).1

/-- The schema of a text. A text that is no JSON is the name of a type. -/
def parse (text : String) : Except SchemaError Schema :=
  ofJson ((Json.read? text).getD (.text text))

/-- Two texts describe the same schema. -/
def compatible (a b : String) : Except SchemaError Bool := do
  let a ← parse a
  let b ← parse b
  return a.text == b.text

end FlowSpec.Avro
