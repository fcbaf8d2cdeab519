import FlowSpec.Document.Error
import FlowSpec.Type.Shape

/-!
Type declarations as documents write them. Declarations nest: the parts of an object, an
enumeration, a list and so on may declare types of their own.
-/

set_option autoImplicit false

namespace FlowSpec.Document

/-- A member of an object declaration. -/
structure Property (δ : Type) where
  name : String
  type : δ
  isOptional : Bool := false
  serialize : Option String := none
  deserialize : Option String := none
deriving Repr, Inhabited

/-- An alternative of an enumeration's declaration. -/
structure Alternative (δ : Type) where
  name : String
  payload : Option δ := none
  serialize : Option String := none
  deserialize : Option String := none
deriving Repr, Inhabited

/-- The line of a declaration and the name it gives to its type, which may be empty. -/
structure DeclarationInfo where
  line : Nat := 0
  typeName : String := ""
deriving Repr, DecidableEq, Inhabited

inductive Declaration where
  | plain (info : DeclarationInfo) (type : String)
  | object (info : DeclarationInfo) (properties : List (Property Declaration))
  | enumeration (info : DeclarationInfo) (tagging : String)
    (variants : List (Alternative Declaration))
  | list (info : DeclarationInfo) (items : Declaration)
  | option (info : DeclarationInfo) (value : Declaration)
  | keyedState (info : DeclarationInfo) (key value : Declaration)
  | keyValue (info : DeclarationInfo) (key value : Declaration)
  | row (info : DeclarationInfo) (columns : List Column)
deriving Inhabited

namespace Declaration

/-- What a declaration is where the document holds nothing. -/
def blank : Declaration := plain {} ""

def info : Declaration → DeclarationInfo
  | plain info _ => info
  | object info _ => info
  | enumeration info _ _ => info
  | list info _ => info
  | option info _ => info
  | keyedState info _ _ => info
  | keyValue info _ _ => info
  | row info _ => info

/-- The word or name behind `type`. -/
def type : Declaration → String
  | plain _ type => type
  | object .. => "object"
  | enumeration .. => "enum"
  | list .. => "list"
  | option .. => "option"
  | keyedState .. => "keyed-state"
  | keyValue .. => "key-value"
  | row .. => "arrow-row"

def isComposite : Declaration → Bool
  | plain .. => false
  | _ => true

/-- The name made up for a list that is declared inside another type without a name. -/
def listName (item : String) : String := "list-" ++ item ++ "-gen-type"

/-- The made-up name of a list; empty for other types. -/
def generatedName : Declaration → String
  | list _ items => listName items.type
  | _ => ""

end Declaration

/-! ### Reading declarations -/

open Yaml (Node Failure Reader)

abbrev Outcome := Except (Failure Malformed)

/-- Fails at a line. -/
def complain {α : Type} (line : Nat) (complaint : Complaint) : Outcome α :=
  .error (.rule { line, complaint })

theorem sizeOf_pairs_lt {tag : String} {line : Nat} {pairs : List (Node × Node)} :
    sizeOf pairs < sizeOf (Node.mapping tag line pairs) := by
  simp only [Node.mapping.sizeOf_spec]
  omega

theorem sizeOf_value_lt {pair : Node × Node} {pairs : List (Node × Node)} (h : pair ∈ pairs) :
    sizeOf pair.2 < sizeOf pairs := by
  have h₁ := List.sizeOf_lt_of_mem h
  have h₂ : sizeOf pair.2 < sizeOf pair := by
    obtain ⟨a, b⟩ := pair
    simp only [Prod.mk.sizeOf_spec]
    omega
  omega

theorem sizeOf_pairs_lt_of_isMapping {node : Node} (h : node.isMapping = true) :
    sizeOf node.pairs < sizeOf node := by
  cases node with
  | mapping tag line pairs => exact sizeOf_pairs_lt
  | _ => simp [Node.isMapping] at h

theorem sizeOf_pairs_le (node : Node) : sizeOf node.pairs ≤ sizeOf node := by
  cases node <;> simp [Node.pairs] <;> omega

theorem sizeOf_find?_lt {node value : Node} {key : String} (h : node.find? key = some value) :
    sizeOf value < sizeOf node := by
  simp only [Node.find?, Option.map_eq_some_iff] at h
  obtain ⟨pair, found, rfl⟩ := h
  have h₁ := sizeOf_value_lt (List.mem_of_find?_eq_some found)
  have h₂ := sizeOf_pairs_le node
  omega

/-- Where a member's names for reading and writing stand. -/
def serdeReader : Reader Malformed String :=
  .record "pipeline.SerdeField" "" [Reader.string.field "rename" id fun _ name => name]

def readSerde (node : Node) (key : String) : Outcome (Option String) :=
  match node.find? key with
  | some serde => some <$> serdeReader.decode serde
  | none => .ok none

def readOptional (node : Node) : Outcome Bool :=
  match node.find? "optional" with
  | some value => Reader.bool.decode value
  | none => .ok false

def readTagging (node : Node) : Outcome String :=
  match node.find? "tagging" with
  | some value =>
    if value.text == "externally-tagged" || value.text == "untagged" then .ok value.text
    else complain value.line (.tagging value.text)
  | none => .ok ""

/-- Types that columns of a row may have. -/
def columnTypes : List String :=
  ["u8", "u16", "u32", "u64", "s8", "s16", "s32", "s64", "i8", "i16", "i32", "i64",
    "f32", "f64", "float32", "float64", "bool", "string", "timestamp"]

def readColumn (pair : Node × Node) : Outcome Column :=
  match pair.2.find? "type" with
  | none => complain pair.2.line (.columnType pair.1.text)
  | some type =>
    if columnTypes.contains type.text then .ok { name := pair.1.text, type := type.text }
    else complain type.line (.unsupportedColumn type.text pair.1.text)

def readColumns (node : Node) : Outcome (List Column) :=
  match node.find? "properties" with
  | some properties => properties.pairs.mapM readColumn
  | none => .ok []

namespace Declaration

mutual

/-- Reads a mapping with a `type` field. Aliases are not followed. -/
def ofNode (node : Node) : Outcome Declaration :=
  if node.isMapping then
    match node.find? "type" with
    | none => complain node.line (.missingField "type")
    | some type =>
      if type.text.isEmpty then complain node.line (.missingField "type")
      else
        let info :=
          { line := node.line, typeName := ((node.find? "type-name").map Node.text).getD "" }
        match type.text with
        | "object" =>
          match h : node.find? "properties" with
          | none => .ok (object info [])
          | some properties =>
            have := sizeOf_find?_lt h
            if hm : properties.isMapping then
              have := sizeOf_pairs_lt_of_isMapping hm
              object info <$> members properties.pairs
            else complain properties.line .objectProperties
        | "enum" => do
          let tagging ← readTagging node
          match h : node.find? "oneOf" with
          | none => complain node.line .variants
          | some oneOf =>
            have := sizeOf_find?_lt h
            if hm : oneOf.isMapping then
              have := sizeOf_pairs_lt_of_isMapping hm
              enumeration info tagging <$> alternatives oneOf.pairs
            else complain oneOf.line .variantsKind
        | "list" =>
          match h : node.find? "items" with
          | none => complain node.line .listItems
          | some items =>
            have := sizeOf_find?_lt h
            list info <$> follow items
        | "option" =>
          match h : node.find? "value" with
          | none => complain node.line .optionValue
          | some value =>
            have := sizeOf_find?_lt h
            option info <$> follow value
        | "keyed-state" => pair (keyedState info) "keyed-state" node
        | "key-value" => pair (keyValue info) "key-value" node
        | "arrow-row" => row info <$> readColumns node
        | name => .ok (plain info name)
  else complain node.line .declarationKind
termination_by (sizeOf node, 1)

/-- Reads the declarations under `key` and `value`. -/
def pair (make : Declaration → Declaration → Declaration) (word : String) (node : Node) :
    Outcome Declaration :=
  match h : node.find? "properties" with
  | none => complain node.line (.properties word)
  | some properties =>
    have := sizeOf_find?_lt h
    match hk : properties.find? "key", hv : properties.find? "value" with
    | some key, some value => do
      have := sizeOf_find?_lt hk
      have := sizeOf_find?_lt hv
      return make (← follow key) (← follow value)
    | _, _ => complain properties.line (.keyAndValue word)
termination_by (sizeOf node, 0)

/-- Reads a declaration behind an alias or in place; nothing is a blank declaration. -/
def follow (node : Node) : Outcome Declaration :=
  match node with
  | .reference _ name none => .error (.problem (.selfContaining name))
  | .reference _ _ (some target) => settle target
  | node => settle node
termination_by (sizeOf node, 3)

def settle (node : Node) : Outcome Declaration :=
  if node.tag == "!!null" then
    (Reader.custom "pipeline.TypeDef" blank fun _ => .ok blank).decode node
  else ofNode node
termination_by (sizeOf node, 2)

def members : List (Node × Node) → Outcome (List (Property Declaration))
  | [] => .ok []
  | (key, value) :: rest => do
    let type ← ofNode value
    let isOptional ← readOptional value
    let serialize ← readSerde value "serialize"
    let deserialize ← readSerde value "deserialize"
    let others ← members rest
    return { name := key.text, type, isOptional, serialize, deserialize } :: others
termination_by pairs => (sizeOf pairs, 0)

def alternatives : List (Node × Node) → Outcome (List (Alternative Declaration))
  | [] => .ok []
  | (key, value) :: rest => do
    let payload ← if value.isMapping && (value.find? "type").isSome then
      some <$> ofNode value else .ok none
    let serialize ← readSerde value "serialize"
    let deserialize ← readSerde value "deserialize"
    let others ← alternatives rest
    return { name := key.text, payload, serialize, deserialize } :: others
termination_by pairs => (sizeOf pairs, 0)

end

/-- Reads declarations where values are expected. -/
def reader : Reader Malformed Declaration := .custom "pipeline.TypeDef" blank ofNode

end Declaration

end FlowSpec.Document
