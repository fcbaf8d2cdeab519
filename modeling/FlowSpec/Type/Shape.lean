import FlowSpec.Json
import FlowSpec.Type.Primitive

/-!
The shapes of types. Types refer to one another by name only, so a shape is finite and equality of
shapes is equality of values.
-/

set_option autoImplicit false

namespace FlowSpec

/-- The names under which a member is written and read, where they are set. -/
structure Serde where
  serialize : Option String := none
  deserialize : Option String := none
deriving Repr, DecidableEq, Inhabited

structure Field where
  name : String
  type : String
  isOptional : Bool := false
  serde : Serde := {}
deriving Repr, DecidableEq, Inhabited

/-- An alternative of an enumeration; without a payload it is a unit. -/
structure Variant where
  name : String
  payload : Option String := none
  serde : Serde := {}
deriving Repr, DecidableEq, Inhabited

structure Column where
  name : String
  type : String
deriving Repr, DecidableEq, Inhabited

/-- What a keyed state holds: a type named but not yet looked up, a counter, or a row. -/
inductive StateValue where
  | unresolved (name : String)
  | u32
  | row (columns : List Column)
deriving Repr, DecidableEq, Inhabited

def StateValue.isResolved : StateValue → Bool
  | unresolved _ => false
  | _ => true

structure KeyedState where
  key : String
  value : StateValue
deriving Repr, DecidableEq, Inhabited

/-- An enumeration. One whose declaration lists no variants is `bare`, which shows in its
encoding. -/
structure Enumeration where
  variants : List Variant
  tagging : String := ""
  bare : Bool := false
deriving Repr, DecidableEq, Inhabited

inductive Shape where
  | null
  | primitive (kind : Primitive)
  | named (target : String)
  | object (fields : List Field)
  | enumeration (variants : Enumeration)
  | list (item : String)
  | option (value : String)
  | keyedState (state : KeyedState)
  | row (columns : List Column)
  | keyValue (key value : String)
deriving Repr, DecidableEq, Inhabited

namespace Shape

def code : Shape → Nat
  | null => 0
  | primitive kind => kind.code
  | named _ => 14
  | object _ => 15
  | enumeration _ => 16
  | list _ => 17
  | option _ => 18
  | keyedState _ => 19
  | row _ => 20
  | keyValue _ _ => 21

/-- The name of the type as documents write it; an alias has its target's. -/
def typeName : Shape → String
  | null => "_"
  | primitive kind => kind.name
  | named target => target
  | object _ => "object"
  | enumeration _ => "enum"
  | list _ => "list"
  | option _ => "option"
  | keyedState _ => "keyed-state"
  | row _ => "arrow-row"
  | keyValue _ _ => "key-value"

def isPrimitive : Shape → Bool
  | primitive _ => true
  | _ => false

/-- The words of documents for shapes that have parts; none of them can name a type. -/
def compositeNames : List String :=
  ["enum", "object", "list", "option", "keyed-state", "arrow-row", "key-value"]

end Shape

/-! ### Encoding -/

/-- A reference to a type. -/
def typeRef (name : String) : Json := .object [("name", .text name)]

def serdeName (rename : String) : Json := .object (Json.textUnlessEmpty "rename" rename)

def Serde.toJson (serde : Serde) : Json :=
  .object (Json.memberIfSome "serialize" serde.serialize serdeName
    ++ Json.memberIfSome "deserialize" serde.deserialize serdeName)

def Field.toJson (field : Field) : Json :=
  .object ([("name", .text field.name), ("type", typeRef field.type)]
    ++ Json.flagIfSet "optional" field.isOptional ++ [("serde", field.serde.toJson)])

def Variant.toJson (variant : Variant) : Json :=
  .object ([("name", .text variant.name)] ++ Json.memberIfSome "value" variant.payload typeRef
    ++ [("serde", variant.serde.toJson)])

def Column.toJson (column : Column) : Json :=
  .object [("name", .text column.name), ("type", .text column.type)]

def rowJson (columns : List Column) : Json :=
  .object [("columns", .list (columns.map Column.toJson))]

def StateValue.toJson : StateValue → Json
  | unresolved name => .object [("kind", .int 0), ("ref", typeRef name)]
  | u32 => .object [("kind", .int 1), ("ref", typeRef "")]
  | row columns => .object [("kind", .int 2), ("ref", typeRef ""), ("row", rowJson columns)]

def KeyedState.toJson (state : KeyedState) : Json :=
  .object [("key", typeRef state.key), ("value", state.value.toJson)]

def Enumeration.toJson (enumeration : Enumeration) : Json :=
  .object ([("variants", if enumeration.bare then .null
      else .list (enumeration.variants.map Variant.toJson))]
    ++ Json.textUnlessEmpty "tagging" enumeration.tagging)

def keyValueJson (key value : String) : Json :=
  .object [("key", typeRef key), ("value", typeRef value)]

namespace Shape

/-- The name that the shape itself refers to, if it is no more than a reference. -/
def refName : Shape → String
  | named name => name
  | list name => name
  | option name => name
  | _ => ""

def parts : Shape → List (String × Json)
  | object fields => [("object", .object [("fields", .list (fields.map Field.toJson))])]
  | enumeration variants => [("enum", variants.toJson)]
  | row columns => [("arrowRow", rowJson columns)]
  | keyValue key value => [("keyValue", keyValueJson key value)]
  | keyedState state => [("keyedState", state.toJson)]
  | _ => []

def toJson (shape : Shape) : Json :=
  .object ([("kind", .int shape.code), ("ref", typeRef shape.refName)] ++ shape.parts)

end Shape

/-- Where a type came from. -/
inductive Origin where
  | declared
  | imported
deriving Repr, DecidableEq, Inhabited

def Origin.name : Origin → String
  | declared => "local"
  | imported => "imported"

def Origin.code : Origin → Nat
  | declared => 0
  | imported => 1

/-- A type of a package or dataflow. -/
structure NamedType where
  name : String
  shape : Shape
  origin : Origin := .declared
deriving Repr, DecidableEq, Inhabited

def NamedType.toJson (type : NamedType) : Json :=
  .object [("name", .text type.name), ("type", type.shape.toJson),
    ("origin", .int type.origin.code)]

end FlowSpec
