import FlowSpec.Json
import FlowSpec.Text.Split
import FlowSpec.Type.Shape

/-!
Schemas as they are built from types, before they are written as JSON. A definition keeps the name
of the type or variant that it is made from, and a reference the name of its type; hyphens and
namespaces are a matter of the text.
-/

set_option autoImplicit false

namespace FlowSpec.Avro

/-- What a definition is made from: a declared type, or a variant of one. -/
inductive Title where
  | declared (type : String)
  | variant (type name : String)
deriving Repr, DecidableEq, Inhabited

/-- The name of the definition, as types are named. -/
def Title.name : Title → String
  | declared type => type
  | variant type name => type ++ "_" ++ name

/-- A field of a record. An optional one has null for its default. -/
structure NodeField (ν : Type) where
  name : String
  type : ν
  isOptional : Bool := false
deriving Repr, DecidableEq, Inhabited

inductive Node where
  | null
  | primitive (kind : Primitive)
  | timestamp
  | reference (type : String)
  | array (items : Node)
  | union (branches : List Node)
  | enumeration (title : Title) (symbols : List String)
  | record (title : Title) (fields : List (NodeField Node))
deriving Repr, Inhabited

/-- The encoding of a primitive type. -/
def primitiveName : Primitive → String
  | .u8 | .u16 | .s8 | .s16 | .s32 => "int"
  | .u32 | .u64 | .s64 => "long"
  | .f32 => "float"
  | .f64 => "double"
  | .bool => "boolean"
  | .string => "string"
  | .bytes => "bytes"

/-- Names of schemas have no hyphens. -/
def schemaName (name : String) : String := Text.replaceChar '-' '_' name

/-- The name of a schema in a namespace. -/
def fullName (owner name : String) : String := owner ++ "." ++ schemaName name

namespace Node

/-- The union with null. -/
def nullable (type : Node) : Node := union [null, type]

/-- The type of an optional field. A union is taken to have null already. -/
def optional : Node → Node
  | union branches => union branches
  | other => other.nullable

/-- The members that name a definition. -/
def definition (owner type : String) (title : Title) : List (String × Json) :=
  [("type", .text type), ("name", .text (schemaName title.name)), ("namespace", .text owner)]

mutual

/-- The JSON of a schema in a namespace. -/
def toJson (owner : String) : Node → Json
  | null => .text "null"
  | primitive kind => .text (primitiveName kind)
  | timestamp => .object [("type", .text "long"), ("logicalType", .text "timestamp-millis")]
  | reference type => .text (fullName owner type)
  | array items => .object [("type", .text "array"), ("items", toJson owner items)]
  | union branches => .list (branchesJson owner branches)
  | enumeration title symbols =>
    .object (definition owner "enum" title ++ [("symbols", Json.texts (symbols.map schemaName))])
  | record title fields =>
    .object (definition owner "record" title ++ [("fields", .list (fieldsJson owner fields))])

def fieldsJson (owner : String) : List (NodeField Node) → List Json
  | [] => []
  | { name, type, isOptional } :: rest =>
    .object ([("name", .text (schemaName name)), ("type", toJson owner type)]
      ++ if isOptional then [("default", .null)] else []) :: fieldsJson owner rest

def branchesJson (owner : String) : List Node → List Json
  | [] => []
  | branch :: rest => toJson owner branch :: branchesJson owner rest

end

end Node

end FlowSpec.Avro
