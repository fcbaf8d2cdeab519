import FlowSpec.Service

/-!
Edits of a service: operations are put into one of its blocks of transforms, or taken out. A failed
edit changes nothing.
-/

set_option autoImplicit false

namespace FlowSpec.Service

/-- A place in one of the blocks of transforms. -/
structure Placement where
  inWindow : Bool := false
  inPartition : Bool := false
  index : Option Int := none
deriving Repr, DecidableEq, Inhabited

/-- Why a block of transforms does not exist. -/
inductive MissingBlock where
  | window
  | windowPartition
  | topLevelPartition
  | partition
deriving Repr, DecidableEq, Inhabited

/-- The verb of an edit. -/
inductive Verb where
  | add
  | delete
deriving Repr, DecidableEq, Inhabited

inductive EditError where
  | missingBlock (verb : Verb) (block : MissingBlock)
  | insertIndexRequired
  | deleteIndexRequired
  | insertOutOfBounds (size : Nat)
  | deleteOutOfBounds (size : Nat)
  | notTransform (operator : Operator)
deriving Repr, DecidableEq, Inhabited

def Verb.text : Verb → String
  | add => "add"
  | delete => "delete"

/-- The preposition that goes with a verb. -/
def Verb.preposition : Verb → String
  | add => "to"
  | delete => "from"

def MissingBlock.text (verb : Verb) : MissingBlock → String
  | window => "Window was specified but service does not have a window"
  | windowPartition => "Window and parition were specified but window does not have a partition"
  | topLevelPartition =>
    "Service does not have top level partition. To " ++ verb.text ++ " operator " ++
      verb.preposition ++ " window partition, please specify window"
  | partition => "Partition was specified but service does not have a partition"

def EditError.message : EditError → String
  | missingBlock verb block => "Cannot " ++ verb.text ++ " operator. " ++ block.text verb
  | insertIndexRequired => "Must provide transforms index to insert operator into transforms block"
  | deleteIndexRequired => "Transforms index required to delete operator from transforms"
  | insertOutOfBounds size =>
    "cannot insert operator into transforms block, index is out of bounds, len = " ++ toString size
  | deleteOutOfBounds size =>
    "cannot delete operator from transforms block, index is out of bounds, len = " ++ toString size
  | notTransform operator =>
    "OperatorType " ++ operator.name ++ " not supported for transforms operator"

/-- Changes the block of transforms that a placement selects. -/
def editBlock (verb : Verb) (placement : Placement)
    (edit : List Operation → Except EditError (List Operation)) (service : Service) :
    Except EditError Service :=
  let missing (block : MissingBlock) : Except EditError Service := .error (.missingBlock verb block)
  if placement.inWindow then
    match service.window with
    | none => missing .window
    | some window =>
      if placement.inPartition then
        match window.partition with
        | none => missing .windowPartition
        | some partition => do
          let transforms ← edit partition.transforms
          return { service with
            window := some { window with partition := some { partition with transforms } } }
      else do
        let transforms ← edit window.transforms
        return { service with window := some { window with transforms } }
  else if placement.inPartition then
    match service.partition with
    | none => missing (if service.window.isSome then .topLevelPartition else .partition)
    | some partition => do
      let transforms ← edit partition.transforms
      return { service with partition := some { partition with transforms } }
  else do
    let transforms ← edit service.transforms
    return { service with transforms }

/-- An index within bounds. -/
def inBounds (index : Int) (bound : Nat) : Bool := 0 ≤ index && index ≤ bound

def insertOperation (index : Option Int) (operation : Operation) (operations : List Operation) :
    Except EditError (List Operation) :=
  match index with
  | none => .error .insertIndexRequired
  | some index =>
    if !inBounds index operations.length then .error (.insertOutOfBounds operations.length)
    else if !operation.operator.isTransform then .error (.notTransform operation.operator)
    else .ok (operations.take index.toNat ++ operation :: operations.drop index.toNat)

def deleteOperation (index : Option Int) (operations : List Operation) :
    Except EditError (List Operation) :=
  match index with
  | none => .error .deleteIndexRequired
  | some index =>
    if 0 ≤ index && index < operations.length then .ok (operations.eraseIdx index.toNat)
    else .error (.deleteOutOfBounds operations.length)

/-- Puts an operation into the block that the placement selects. -/
def add (service : Service) (placement : Placement) (operation : Operation) :
    Except EditError Service :=
  service.editBlock .add placement (insertOperation placement.index operation)

/-- Takes an operation out of the block that the placement selects. -/
def delete (service : Service) (placement : Placement) : Except EditError Service :=
  service.editBlock .delete placement (deleteOperation placement.index)

end FlowSpec.Service
