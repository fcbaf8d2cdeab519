import FlowSpec.Text.Split
import FlowSpec.Type.Primitive
import FlowSpec.Wit.Name

/-! Interface descriptions as trees, and the text they are written as. -/

set_option autoImplicit false

namespace FlowSpec.Wit

inductive TypeExpr where
  | builtin (kind : Primitive)
  | name (identifier : String)
  | option (inner : TypeExpr)
  | list (item : TypeExpr)
  | pair (first second : TypeExpr)
deriving Repr, DecidableEq, Inhabited

def TypeExpr.text : TypeExpr → String
  | builtin kind => kind.name
  | name identifier => identifier
  | option inner => "option<" ++ inner.text ++ ">"
  | list item => "list<" ++ item.text ++ ">"
  | pair first second => "tuple<" ++ first.text ++ ", " ++ second.text ++ ">"

/-- A list of octets. -/
def TypeExpr.octets : TypeExpr := list (builtin .u8)

/-- A parameter of a function or a field of a record. -/
structure Param where
  name : String
  type : TypeExpr
deriving Repr, DecidableEq, Inhabited

/-- A case of a variant. -/
structure Case where
  name : String
  payload : Option TypeExpr := none
deriving Repr, DecidableEq, Inhabited

inductive Body where
  | synonym (target : TypeExpr)
  | record (fields : List Param)
  | variant (cases : List Case)
deriving Repr, DecidableEq, Inhabited

/-- The definition of a type. -/
structure TypeDef where
  name : String
  body : Body
deriving Repr, DecidableEq, Inhabited

/-- Names taken from another interface. -/
structure Use where
  target : String
  items : List String
deriving Repr, DecidableEq, Inhabited

/-- A function; every result can also be an error text. -/
structure Func where
  name : String
  params : List Param
  result : Option TypeExpr
deriving Repr, DecidableEq, Inhabited

structure Interface where
  name : String
  uses : List Use := []
  types : List TypeDef := []
  funcs : List Func := []
deriving Repr, DecidableEq, Inhabited

structure World where
  name : String
  exports : List String
deriving Repr, DecidableEq, Inhabited

inductive Item where
  | interface (item : Interface)
  | world (item : World)
deriving Repr, DecidableEq, Inhabited

/-- A package of an interface description. -/
structure Description where
  owner : String
  name : String
  items : List Item
deriving Repr, DecidableEq, Inhabited

/-! ### Text -/

def indent : String := "  "

def Use.text (use : Use) : String :=
  "use " ++ use.target ++ ".\x7b" ++ Text.join ", " use.items ++ "\x7d;"

def Param.text (param : Param) : String := param.name ++ ": " ++ param.type.text

def Func.text (func : Func) : String :=
  func.name ++ ": func(" ++ Text.join ", " (func.params.map Param.text) ++ ") -> result<"
    ++ (match func.result with | some type => type.text | none => "_") ++ ", string>;"

def Case.text (case : Case) : String :=
  case.name ++ match case.payload with
    | some type => if type.text.isEmpty then "" else "(" ++ type.text ++ ")"
    | none => ""

/-- Lines in braces behind a heading. -/
def block (margin heading : String) (lines : List String) : String :=
  margin ++ heading ++ " \x7b\n" ++ String.join lines ++ margin ++ "\x7d\n"

def TypeDef.text (definition : TypeDef) : String :=
  match definition.body with
  | .synonym target => indent ++ "type " ++ definition.name ++ " = " ++ target.text ++ ";\n"
  | .record fields =>
    block indent ("record " ++ definition.name)
      (fields.map fun field => indent ++ indent ++ field.text ++ ",\n")
  | .variant cases =>
    block indent ("variant " ++ definition.name)
      (cases.map fun case => indent ++ indent ++ case.text ++ ",\n")

def Interface.text (interface : Interface) : String :=
  block "" ("interface " ++ interface.name)
    (interface.uses.map (fun use => indent ++ use.text ++ "\n")
      ++ interface.types.map TypeDef.text
      ++ interface.funcs.map fun func => indent ++ func.text ++ "\n")

def World.text (world : World) : String :=
  block "" ("world " ++ world.name) (world.exports.map fun name =>
      indent ++ "export " ++ name ++ ";\n")

def Item.text : Item → String
  | interface item => item.text
  | world item => item.text

namespace Description

def interfaces (description : Description) : List Interface :=
  description.items.filterMap fun item => match item with
    | .interface interface => some interface
    | .world _ => none

def worlds (description : Description) : List World :=
  description.items.filterMap fun item => match item with
    | .world world => some world
    | .interface _ => none

def text (description : Description) : String :=
  "package " ++ description.owner ++ ":" ++ description.name ++ ";\n"
    ++ String.join (description.items.map fun item => "\n" ++ item.text)

end Description

end FlowSpec.Wit
