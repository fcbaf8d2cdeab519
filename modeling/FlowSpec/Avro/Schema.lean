import FlowSpec.Json
import FlowSpec.Text.Split

/-! Avro schemas and their canonical text: full names, no defaults, no documentation. -/

set_option autoImplicit false

namespace FlowSpec.Avro

/-- What a type stands for beyond its encoding. -/
inductive Logical where
  | named (name : String)
  | decimal (precision scale : Int)
deriving Repr, DecidableEq, Inhabited

inductive Schema where
  | primitive (name : String) (logical : Option Logical)
  | record (name : String) (isError : Bool) (fields : List (String × Schema))
  | enumeration (name : String) (symbols : List String)
  | fixed (name : String) (size : Int) (logical : Option Logical)
  | array (items : Schema)
  | map (values : Schema)
  | union (branches : List Schema)
  | reference (name : String)
deriving Repr, Inhabited

def Logical.name : Logical → String
  | named name => name
  | decimal _ _ => "decimal"

def Logical.members : Logical → List (String × Json)
  | named name => [("logicalType", .text name)]
  | decimal precision scale =>
    [("logicalType", .text "decimal"), ("precision", .int precision)]
      ++ if scale > 0 then [("scale", .int scale)] else []

namespace Schema

def logicalMembers (logical : Option Logical) : List (String × Json) :=
  (logical.map Logical.members).getD []

mutual

/-- The canonical form. -/
def toJson : Schema → Json
  | primitive name none => .text name
  | primitive name (some logical) => .object (("type", .text name) :: logical.members)
  | record name isError fields =>
    .object [("name", .text name), ("type", .text (if isError then "error" else "record")),
      ("fields", .list (fieldsJson fields))]
  | enumeration name symbols =>
    .object [("name", .text name), ("type", .text "enum"), ("symbols", Json.texts symbols)]
  | fixed name size logical =>
    .object ([("name", .text name), ("type", .text "fixed"), ("size", .int size)]
      ++ logicalMembers logical)
  | array items => .object [("type", .text "array"), ("items", toJson items)]
  | map values => .object [("type", .text "map"), ("values", toJson values)]
  | union branches => .list (branchesJson branches)
  | reference name => .text name

def fieldsJson : List (String × Schema) → List Json
  | [] => []
  | (name, type) :: rest =>
    .object [("name", .text name), ("type", toJson type)] :: fieldsJson rest

def branchesJson : List Schema → List Json
  | [] => []
  | branch :: rest => toJson branch :: branchesJson rest

end

/-- The canonical text. -/
def text (schema : Schema) : String := schema.toJson.compact

/-- The word for the kind of a schema. -/
def kind : Schema → String
  | primitive name _ => name
  | record _ isError _ => if isError then "error" else "record"
  | enumeration _ _ => "enum"
  | fixed _ _ _ => "fixed"
  | array _ => "array"
  | map _ => "map"
  | union _ => "union"
  | reference _ => "<ref>"

/-- What tells the branches of a union apart. -/
def branchName : Schema → String
  | record name _ _ => name
  | enumeration name _ => name
  | fixed name _ _ => name
  | reference name => name
  | primitive name (some logical) => name ++ "." ++ logical.name
  | other => other.kind

def isUnion : Schema → Bool
  | union _ => true
  | _ => false

end Schema

end FlowSpec.Avro
