import FlowSpec.Document.Declaration
import FlowSpec.Lowering.Error
import FlowSpec.Text.Order

/-!
Hoisting of type declarations. Types that are declared inside other types move to one flat table
under names of their own, and the place where they stood refers to them by name. A name may be
hoisted twice only with equal shapes.
-/

set_option autoImplicit false

namespace FlowSpec.Lowering

open Document (Declaration Property Alternative)

/-- Shapes by name, in the order in which they were hoisted. -/
abbrev Table := List (String × Shape)

/-- Lowering fills a table and may fail. -/
abbrev Lower := StateT Table (Except Error)

def fail {α : Type} (cause : Cause) : Lower α := throw { cause }

/-- Errors inside are told with their place. -/
def inContext {α : Type} (context : String) (action : Lower α) : Lower α := fun table =>
  (action table).mapError (Error.within context)

def named (kind name : String) : String := kind ++ " `" ++ name ++ "`"

/-- Puts a shape into the table. -/
def hoist (name : String) (shape : Shape) : Lower Unit := do
  match (← get).lookup name with
  | some previous => if previous ≠ shape then fail (.redefined name)
  | none => modify (· ++ [(name, shape)])

/-- The name a member is read or written by; the newer format fills it in with the member's own. -/
def serdeName (isV5 : Bool) (name : String) (given : Option String) : Option String :=
  match given with
  | some "" | none => if isV5 then none else some name
  | some rename => some rename

def serde (isV5 : Bool) (name : String) (serialize deserialize : Option String) : Serde :=
  { serialize := serdeName isV5 name serialize, deserialize := serdeName isV5 name deserialize }

/-- Columns keep the word `timestamp` and have normal names otherwise. -/
def lowerColumns (columns : List Column) : List Column :=
  columns.map fun column => { column with type := Primitive.normalize column.type }

/-- The name by which a declaration is referred to. A composite one is hoisted under its own name, a
list without a name under one made from its items. The items of such a list are visited once, for
the name and the shape; a second visit would change nothing (`reference_unnamedList`). -/
def reference (declaration : Declaration) (shape : Lower Shape) : Lower String := do
  match declaration with
  | .plain _ type => return Primitive.normalize type
  | .list { typeName := "", .. } _ =>
    let lowered ← shape
    let name := Declaration.listName lowered.refName
    hoist name lowered
    return name
  | other =>
    let name := other.info.typeName
    if name.isEmpty then fail .nestedTypeName
    else
      let lowered ← inContext (named "type" name) shape
      hoist name lowered
      return name

/-- The value of a keyed state. Rows without a name are embedded. -/
def stateValue (declaration : Declaration) (shape : Lower Shape) : Lower StateValue :=
  match declaration with
  | .row { typeName := "", .. } columns => return .row (lowerColumns columns)
  | .plain info type =>
    if Primitive.normalize type == "u32" then return .u32
    else .unresolved <$> reference (.plain info type) shape
  | other => .unresolved <$> inContext "value" (reference other shape)

/-- What a declaration without parts stands for. -/
def plainShape (type : String) : Shape :=
  match Primitive.ofName? type with
  | some primitive => .primitive primitive
  | none => .named type

mutual

/-- The shape of a declaration; the declarations inside are hoisted. -/
def shapeOf (isV5 : Bool) : Declaration → Lower Shape
  | .plain _ type => return plainShape type
  | .object _ properties => .object <$> fieldsOf isV5 properties
  | .enumeration _ tagging alternatives => do
    let variants ← variantsOf isV5 alternatives
    return .enumeration { variants, tagging, bare := variants.isEmpty }
  | .list _ items => .list <$> reference items (shapeOf isV5 items)
  | .option _ value => .option <$> reference value (shapeOf isV5 value)
  | .keyedState _ key value => do
    let key ← inContext "key" (reference key (shapeOf isV5 key))
    let value ← stateValue value (shapeOf isV5 value)
    return .keyedState { key, value }
  | .keyValue _ key value => do
    let key ← reference key (shapeOf isV5 key)
    let value ← reference value (shapeOf isV5 value)
    return .keyValue key value
  | .row _ columns => return .row (lowerColumns columns)

def fieldsOf (isV5 : Bool) : List (Property Declaration) → Lower (List Field)
  | [] => return []
  | ⟨name, type, isOptional, serialize, deserialize⟩ :: rest => do
    let type ← inContext (named "property" name) (reference type (shapeOf isV5 type))
    let fields ← fieldsOf isV5 rest
    return { name, type, isOptional, serde := serde isV5 name serialize deserialize } :: fields

def variantsOf (isV5 : Bool) : List (Alternative Declaration) → Lower (List Variant)
  | [] => return []
  | ⟨name, payload, serialize, deserialize⟩ :: rest => do
    let payload ← match payload with
      | some type => some <$> inContext (named "variant" name) (reference type (shapeOf isV5 type))
      | none => pure none
    let variants ← variantsOf isV5 rest
    return { name, payload, serde := serde isV5 name serialize deserialize } :: variants

end

/-- The keyed state that a declaration describes. -/
def keyedStateOf (isV5 : Bool) (declaration : Declaration) : Lower KeyedState := do
  match ← shapeOf isV5 declaration with
  | .keyedState state => return state
  | _ => fail (.stateType declaration.type)

/-- Declares types at the top level, in the order of their names. -/
def declare (isV5 : Bool) (declarations : List (String × Declaration)) : Lower Unit :=
  (Text.sortByName Prod.fst declarations).forM fun (name, declaration) => do
    let shape ← inContext (named "type" name) do
      if declaration.info.typeName ≠ "" then fail .topLevelTypeName
      shapeOf isV5 declaration
    hoist name shape

/-- The types of a table in the order of their names. -/
def Table.types (table : Table) : List NamedType :=
  (Text.sortByName Prod.fst table).map fun (name, shape) => { name, shape }

end FlowSpec.Lowering
