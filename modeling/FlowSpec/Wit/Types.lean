import FlowSpec.Scope
import FlowSpec.Wit.Interface

/-!
The shared interface of types. Each declared type has a definition, a keyed state has three, and the
type that stands for nothing has none.
-/

set_option autoImplicit false

namespace FlowSpec.Wit

/-- How a type is referred to. Primitive types are built in, octet strings excepted, and a time
stamp is a signed number. -/
def typeRef (name : String) : TypeExpr :=
  if name == "timestamp" then .builtin .s64
  else match Primitive.ofName? name with
    | some .bytes | none => .name (identifier name)
    | some kind => .builtin kind

/-- The handle of a whole table of rows. -/
def tableHandle : String := "df-value"

def rowRecord (columns : List Column) : Body :=
  .record (columns.map fun column =>
      { name := identifier column.name, type := typeRef column.type })

def objectRecord (fields : List Field) : Body :=
  .record (fields.map fun field =>
    { name := identifier field.name
      type := if field.isOptional then .option (typeRef field.type) else typeRef field.type })

def enumVariant (variants : List Variant) : Body :=
  .variant (variants.map fun variant =>
    { name := identifier variant.name, payload := variant.payload.map typeRef })

/-- The value of an entry, the state itself, and an entry as a pair of key and value. -/
def keyedStateDefs (base : String) (state : KeyedState) : List TypeDef :=
  let itemName := identifier (base ++ "-item")
  let valueName := identifier (base ++ "-item-value")
  let (value, whole) := match state.value with
    | .u32 => (Body.synonym (.builtin .u32), TypeExpr.list (.name itemName))
    | .row columns => (rowRecord columns, .name tableHandle)
    | .unresolved name => (.synonym (typeRef name), typeRef name)
  [⟨valueName, value⟩, ⟨identifier base, .synonym whole⟩,
    ⟨itemName, .synonym (.pair (typeRef state.key) (.name valueName))⟩]

/-- The definitions behind a declared type. -/
def typeDefs (type : NamedType) : List TypeDef :=
  let define (body : Body) : List TypeDef := [⟨identifier type.name, body⟩]
  match type.shape with
  | .null => []
  | .primitive .bytes => define (.synonym .octets)
  | .primitive kind => define (.synonym (.builtin kind))
  | .named target => define (.synonym (typeRef target))
  | .list item => define (.synonym (.list (typeRef item)))
  | .option value => define (.synonym (.option (typeRef value)))
  | .keyValue key value => define (.synonym (.pair (typeRef key) (typeRef value)))
  | .object fields => define (objectRecord fields)
  | .row columns => define (rowRecord columns)
  | .enumeration variants => define (enumVariant variants.variants)
  | .keyedState state => keyedStateDefs (normalName type.name) state

/-- Two declarations that need one identifier. -/
structure Collision where
  kind : String
  identifier : String
  newcomer : String
  owner : String
deriving Repr, DecidableEq, Inhabited

def Collision.message (collision : Collision) : String :=
  "wit identifier collision: `" ++ collision.identifier ++ "` from " ++ collision.kind ++ " `"
    ++ collision.newcomer ++ "` is already declared by " ++ collision.kind ++ " `" ++
    collision.owner ++ "`"

/-- An identifier without the mark of keywords. -/
def unmarked (identifier : String) : String :=
  match identifier.toList with
  | '%' :: rest => String.ofList rest
  | _ => identifier

/-- Checks definitions against the owners of identifiers before them. -/
def checkOwners (type : String) :
    List TypeDef → List (String × String) → Except Collision (List (String × String))
  | [], owners => .ok owners
  | definition :: rest, owners =>
    let id := unmarked definition.name
    match owners.lookup id with
    | some owner => .error { kind := "type", identifier := id, newcomer := type, owner }
    | none => checkOwners type rest ((id, type) :: owners)

def checkTypes : List NamedType → List (String × String) → Except Collision Unit
  | [], _ => .ok ()
  | type :: rest, owners => do
    let owners ← checkOwners type.name (typeDefs type) owners
    checkTypes rest owners

def typesName : String := "types"

def tablePackage : String := "sdf:df/lazy"

def usesTables (definition : TypeDef) : Bool := definition.body = .synonym (.name tableHandle)

/-- All definitions, behind one of octet strings. -/
def typesInterface (scope : Scope) : Except Collision Interface := do
  checkTypes scope.types [("bytes", "bytes")]
  let definitions := scope.types.flatMap typeDefs
  return {
    name := typesName
    types := ⟨"bytes", .synonym .octets⟩ :: definitions
    uses := if definitions.any usesTables then [⟨tablePackage, [tableHandle]⟩] else [] }

/-- The names that are taken from the shared interface: each once, in order. -/
def typesUse (names : List String) : List Use :=
  let shared := names.filter fun name => name ≠ "" && Primitive.isSharedName name
  let items := Text.dropRepeats (Text.sortNames (shared.map identifier))
  if items.isEmpty then [] else [⟨typesName, items⟩]

end FlowSpec.Wit
