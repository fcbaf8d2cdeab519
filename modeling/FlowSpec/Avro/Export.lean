import FlowSpec.Avro.Parse
import FlowSpec.Avro.Tree
import FlowSpec.Scope

/-!
Avro schemas of the types in scope. A named type is defined where it is first used and referred to
by its full name afterwards, so a record may mention itself; any other shape that mentions itself
has no schema.
-/

set_option autoImplicit false

namespace FlowSpec.Avro

/-- The part of a type in which an error lies. -/
inductive Part where
  | field (name : String)
  | column (name : String)
  | variant (name : String)
  | key
  | value
deriving Repr, DecidableEq, Inhabited

inductive ExportError where
  | unknownType (name : String)
  | selfReference (name : String)
  | noSchema (name kind : String)
  | inPart (part : Part) (type : String) (cause : ExportError)
  | invalid (name : String) (cause : SchemaError)
  | inTopic (topic : String) (part : Part) (cause : ExportError)
deriving Repr, DecidableEq, Inhabited

def Part.message : Part → String
  | field name => "field \x60" ++ name ++ "\x60"
  | column name => "column \x60" ++ name ++ "\x60"
  | variant name => "variant \x60" ++ name ++ "\x60"
  | key => "key"
  | value => "value"

def ExportError.message : ExportError → String
  | unknownType name => "\x60" ++ name ++ "\x60: type not found"
  | selfReference name =>
    "\x60" ++ name ++ "\x60 refers to itself outside a record: type has no avro representation"
  | noSchema name kind => "\x60" ++ name ++ "\x60 (" ++ kind ++ "): type has no avro representation"
  | inPart part type cause => part.message ++ " of \x60" ++ type ++ "\x60: " ++ cause.message
  | invalid name cause => "parse schema of \x60" ++ name ++ "\x60: " ++ cause.message
  | inTopic topic part cause =>
    "topic \x60" ++ topic ++ "\x60 " ++ part.message ++ ": " ++ cause.message

/-- The namespace of schemas when none is chosen. -/
def defaultNamespace : String := "com.example.sdf"

/-- An export: the scope that names are looked up in, and the namespace of the schemas. -/
structure Exporter where
  scope : Scope
  owner : String
deriving Repr, DecidableEq, Inhabited

def Exporter.make (scope : Scope) (owner : String) : Exporter :=
  { scope := scope, owner := if owner.isEmpty then defaultNamespace else owner }

/-- The names that have definitions already. -/
abbrev Build := StateT (List String) (Except ExportError)

namespace Build

/-- The error of an action as one of a part of a type. -/
def inPart {α : Type} (part : Part) (type : String) (action : Build α) : Build α := fun defined =>
  (action defined).mapError (ExportError.inPart part type)

end Build

namespace Exporter

def define (title : Title) : Build Unit := modify (title.name :: ·)

/-- How a mention of a type is built. -/
abbrev Mention := String → Build Node

def objectField (mention : Mention) (owner : String) (field : Field) : Build (NodeField Node) := do
  let type ← Build.inPart (.field field.name) owner (mention field.type)
  return { name := field.name, type := if field.isOptional then type.optional else type
           isOptional := field.isOptional }

def columnField (mention : Mention) (owner : String) (column : Column) :
    Build (NodeField Node) := do
  if column.type == "timestamp" then return { name := column.name, type := .timestamp }
  else return { name := column.name,
                type := ← Build.inPart (.column column.name) owner (mention column.type) }

/-- A variant with others that carry values is a record. -/
def variantRecord (mention : Mention) (owner : String) (variant : Variant) : Build Node := do
  define (.variant owner variant.name)
  match variant.payload with
  | none => return .record (.variant owner variant.name) []
  | some payload =>
    let type ← Build.inPart (.variant variant.name) owner (mention payload)
    return .record (.variant owner variant.name) [{ name := "value", type }]

/-- The schema of a shape, given how the types in it are built. -/
def shapeNode (mention : Mention) (name : String) (shape : Shape) : Build Node :=
  match shape with
  | .primitive kind => return .primitive kind
  | .named target => mention target
  | .list item => return .array (← mention item)
  | .option value => return (← mention value).nullable
  | .object fields => do
    define (.declared name)
    return .record (.declared name) (← fields.mapM (objectField mention name))
  | .row columns => do
    define (.declared name)
    return .record (.declared name) (← columns.mapM (columnField mention name))
  | .keyValue key value => do
    define (.declared name)
    let key ← Build.inPart .key name (mention key)
    let value ← Build.inPart .value name (mention value)
    return .record (.declared name) [{ name := "key", type := key },
      { name := "value", type := value }]
  | .enumeration e =>
    if e.variants.all fun variant => variant.payload.isNone then do
      define (.declared name)
      return .enumeration (.declared name) (e.variants.map Variant.name)
    else return .union (← e.variants.mapM (variantRecord mention name))
  | .keyedState _ | .null => throw (.noSchema name shape.typeName)

/-- How a name is built inside the types being `visited`. Every level visits another type, so `fuel`
need not exceed their number. -/
def mention (self : Exporter) : Nat → List String → Mention
  | 0, _, name => throw (.selfReference name)
  | fuel + 1, visited, name =>
    match Primitive.ofName? name with
    | some kind => return .primitive kind
    | none =>
      match self.scope.lookup? name with
      | none => throw (.unknownType name)
      | some type => do
        if (← get).contains type.name then return .reference type.name
        else if visited.contains type.name then throw (.selfReference type.name)
        else shapeNode (self.mention fuel (type.name :: visited)) type.name type.shape

/-- The schema of a type. -/
def schemaTree (self : Exporter) (name : String) : Except ExportError Node :=
  return (← (self.mention (self.scope.size + 1) [] name).run []).1

/-- The JSON of a type's schema. -/
def schemaJson (self : Exporter) (name : String) : Except ExportError Json :=
  return (← self.schemaTree name).toJson self.owner

def schema (self : Exporter) (name : String) : Except ExportError Schema := do
  (ofJson (← self.schemaJson name)).mapError (ExportError.invalid name)

end Exporter

/-- A schema under the name of its type. -/
structure Entry where
  name : String
  schema : String
deriving Repr, DecidableEq, Inhabited

/-- The schema of one side of a topic. -/
structure Subject where
  subject : String
  type : String
  schema : String
deriving Repr, DecidableEq, Inhabited

/-- Types that are exported on their own. -/
def isExported : Shape → Bool
  | .object _ | .row _ | .enumeration _ | .keyValue _ _ => true
  | _ => false

namespace Exporter

/-- The canonical schemas of all records, rows, enumerations and pairs, in the order of their
names. -/
def entries (self : Exporter) : Except ExportError (List Entry) :=
  (self.scope.types.filter fun type => isExported type.shape).mapM fun type =>
    return { name := type.name, schema := (← self.schema type.name).text }

def subject (self : Exporter) (topic : Topic) (part : Part) (type : String) :
    Except ExportError Subject := do
  let schema ← (self.schema type).mapError (ExportError.inTopic topic.name part)
  return { subject := topic.name ++ "-" ++ part.message, type := type, schema := schema.text }

def topicSubjects (self : Exporter) (topic : Topic) : Except ExportError (List Subject) := do
  let keys ← match topic.key with
    | some key => pure [← self.subject topic .key key.type]
    | none => pure []
  return keys ++ [← self.subject topic .value topic.value.type]

/-- The schemas of the keys and values of topics, in the order of the topics' names. -/
def subjects (self : Exporter) (topics : List Topic) : Except ExportError (List Subject) :=
  return (← (Text.sortByName Topic.name topics).mapM self.topicSubjects).flatten

end Exporter

def Entry.toJson (entry : Entry) : Json :=
  .object [("name", .text entry.name), ("schema", .text entry.schema)]

def Subject.toJson (subject : Subject) : Json :=
  .object [("subject", .text subject.subject), ("type", .text subject.type),
    ("schema", .text subject.schema)]

end FlowSpec.Avro
