import FlowSpec.Definition

/-!
Scopes: the types that names stand for. Declarations are collected first; sealing them settles the
values of keyed states, whatever the order of declaration, and puts the types in the order of their
names. Primitive types are always in scope and never stored.
-/

set_option autoImplicit false

namespace FlowSpec

/-- The type that a name stands for: the one declared under it, else the one declared under the name
with underscores in place of hyphens. -/
def lookupType (types : List NamedType) (name : String) : Option NamedType :=
  (types.find? fun type => type.name == name).orElse fun _ =>
    types.find? fun type => type.name == Text.replaceChar '-' '_' name

/-- Declarations whose forward references are not settled; no name occurs twice. -/
structure Declarations where
  types : List NamedType := []
deriving Repr, DecidableEq, Inhabited

/-- Types with their references settled, in the order of their names. -/
structure Scope where
  types : List NamedType
deriving Repr, DecidableEq, Inhabited

namespace Declarations

def shape? (self : Declarations) (name : String) : Option Shape :=
  (lookupType self.types name).map NamedType.shape

/-- The declaration that is stored under exactly this name. -/
def declared? (self : Declarations) (name : String) : Option NamedType :=
  self.types.find? fun type => type.name == name

/-- Stores a type in place of an older one of its name. Primitive types are not stored. -/
def insert (self : Declarations) (type : NamedType) : Declarations :=
  if Primitive.nativeNames.contains type.name then self
  else if (self.declared? type.name).isSome then
    { types := self.types.map fun old => if old.name == type.name then type else old }
  else { types := self.types ++ [type] }

/-- The type that inserting under a name would replace. -/
def replaced? (self : Declarations) (name : String) : Option NamedType :=
  if Primitive.nativeNames.contains name then none else self.declared? name

def insertAll (self : Declarations) (types : List NamedType) : Declarations :=
  types.foldl insert self

/-- Settles the value of a keyed state. -/
def settle (self : Declarations) (type : NamedType) : Except InvalidStateValue NamedType :=
  match type.shape with
  | .keyedState state => do
    let typed ← TypedState.resolve self.shape? { name := type.name, type := state }
    return { type with shape := .keyedState typed.type }
  | _ => .ok type

def toScope (self : Declarations) : Except InvalidStateValue Scope :=
  return { types := ← (Text.sortByName NamedType.name self.types).mapM self.settle }

end Declarations

namespace Scope

def ofTypes (types : List NamedType) : Except InvalidStateValue Scope :=
  (({} : Declarations).insertAll types).toScope

def lookup? (scope : Scope) (name : String) : Option NamedType := lookupType scope.types name

def shape? (scope : Scope) (name : String) : Option Shape :=
  (scope.lookup? name).map NamedType.shape

/-- Primitive or declared. -/
def contains (scope : Scope) (name : String) : Bool :=
  Primitive.nativeNames.contains name || (scope.lookup? name).isSome

def size (scope : Scope) : Nat := scope.types.length

def ofOrigin (scope : Scope) (origin : Origin) : List NamedType :=
  scope.types.filter fun type => type.origin = origin

def describe (scope : Scope) : String := "schema.Map(" ++ toString scope.size ++ " types)"

end Scope

/-! ### References -/

/-- The type names that a shape mentions. -/
def Shape.references : Shape → List String
  | named target => [target]
  | list item => [item]
  | option value => [value]
  | object fields => fields.map Field.type
  | enumeration variants => variants.variants.filterMap Variant.payload
  | keyValue key value => [key, value]
  | keyedState state => match state.value with
    | .unresolved name => [state.key, name]
    | _ => [state.key]
  | null | primitive _ | row _ => []

namespace Scope

mutual

/-- Adds a type and everything it mentions to the types found so far. Every level of the search adds
a type, so `fuel` need not exceed their number. -/
def collect (scope : Scope) : Nat → String → List NamedType → List NamedType
  | 0, _, found => found
  | fuel + 1, name, found =>
    match scope.lookup? name with
    | none => found
    | some type =>
      if found.any fun other => other.name == type.name then found
      else collectAll scope fuel type.shape.references (found ++ [type])

def collectAll (scope : Scope) (fuel : Nat) : List String → List NamedType → List NamedType
  | [], found => found
  | name :: rest, found => collectAll scope fuel rest (collect scope fuel name found)

end

/-- A type and all types that it mentions, directly or through others, in the order of names. -/
def tree (scope : Scope) (name : String) : List NamedType :=
  Text.sortByName NamedType.name (scope.collect (scope.size + 1) name [])

/-! ### Aliases -/

/-- Follows aliases to the first name that is none, for at most `fuel` names. The flag tells whether
the name is known. -/
def innerNameAux (scope : Scope) : Nat → String → String × Bool
  | 0, _ => ("", false)
  | fuel + 1, name =>
    match scope.shape? name with
    | none => (name, Primitive.nativeNames.contains name)
    | some (.named target) => innerNameAux scope fuel target
    | some _ => (name, true)

def innerName (scope : Scope) (name : String) : String × Bool :=
  scope.innerNameAux (scope.size + 1) name

def resolveAliasAux (scope : Scope) : Nat → String → String
  | 0, name => name
  | fuel + 1, name =>
    match scope.shape? name with
    | some (.named target) => resolveAliasAux scope fuel target
    | some (.primitive .bytes) => name
    | some (.primitive kind) => kind.name
    | _ => name

/-- The primitive name behind aliases; other types keep their names. -/
def resolveAlias (scope : Scope) (name : String) : String :=
  scope.resolveAliasAux (scope.size + 1) name

def isS64 (scope : Scope) (name : String) : Bool :=
  scope.resolveAlias (Primitive.normalize name) == "s64"

def isHashableAux (scope : Scope) : Nat → Shape → Bool
  | 0, _ => false
  | fuel + 1, shape =>
    match shape with
    | .primitive kind => kind.isHashable
    | .named target =>
      match Primitive.ofName? target with
      | some kind => isHashableAux scope fuel (.primitive kind)
      | none =>
        match scope.shape? target with
        | some next => isHashableAux scope fuel next
        | none => false
    | _ => false

/-- May be used as a key. -/
def isHashable (scope : Scope) (shape : Shape) : Bool := scope.isHashableAux (scope.size + 1) shape

def isHashableName (scope : Scope) (name : String) : Bool := scope.isHashable (.named name)

/-- Names that are declared here with other shapes. -/
def conflicts (scope : Scope) (others : List NamedType) : List String :=
  Text.sortNames ((others.filter fun other =>
    match scope.types.find? fun type => type.name == other.name with
    | some mine => mine.shape ≠ other.shape
    | none => false).map NamedType.name)

end Scope

/-! ### Scopes of documents -/

/-- The type that a state stands for. -/
def TypedState.namedType (state : TypedState) : NamedType :=
  { name := state.name, shape := .keyedState state.type }

/-- The types of a package, and its states as types; a state comes before a type of its name. -/
def Package.scope (package : Package) : Except InvalidStateValue Scope :=
  ((({} : Declarations).insertAll package.types).insertAll
    (package.states.map TypedState.namedType)).toScope

/-- A state of a service's own as a type. -/
def PoolState.ownedType? (state : PoolState) : Option NamedType :=
  match state.source with
  | .owned (some typed) => some { name := state.name, shape := .keyedState typed.type }
  | _ => none

/-- The types of a dataflow, and the states that its services own as types. -/
def Dataflow.scope (dataflow : Dataflow) : Except InvalidStateValue Scope :=
  ((({} : Declarations).insertAll dataflow.types).insertAll
    (dataflow.services.flatMap fun service =>
      service.states.filterMap PoolState.ownedType?)).toScope

end FlowSpec
