import FlowSpec.Definition

/-! The type of what flows between two stages of a service: a value, and a key where there is
one. -/

set_option autoImplicit false

namespace FlowSpec

structure Pair where
  key : Option String := none
  value : String
deriving Repr, DecidableEq, Inhabited

namespace Pair

/-- What schedules emit. -/
def timestamp : Pair := { value := "s64" }

def text (pair : Pair) : String :=
  match pair.key with
  | some key => key ++ "(key) - " ++ pair.value ++ "(value)"
  | none => pair.value ++ "(value)"

/-- Behind a step: the value is the step's output, and so is the key if the step makes one. -/
def apply (pair : Pair) (output : Output) : Pair :=
  { key := output.key.orElse fun _ => pair.key, value := output.value }

def withKey (pair : Pair) (key : String) : Pair := { pair with key := some key }

def toJson (pair : Pair) : Json :=
  .object (Json.memberIfSome "key" pair.key typeRef ++ [("value", typeRef pair.value)])

end Pair

def Topic.pair (topic : Topic) : Pair :=
  { key := topic.key.map Encoding.type, value := topic.value.type }

def Output.pair (output : Output) : Pair := { key := output.key, value := output.value }

/-- A topic that a source or sink names and that does not exist. -/
structure UnknownTopic where
  id : String
deriving Repr, DecidableEq, Inhabited

def UnknownTopic.message (error : UnknownTopic) : String :=
  "Referenced topic `" ++ error.id ++ "` not found"

/-- The type at the far end of a source or sink; one without a target has none. -/
def Endpoint.targetPair (topics : List Topic) (endpoint : Endpoint) :
    Except UnknownTopic (Option Pair) :=
  match endpoint.kind with
  | .noTarget => .ok none
  | .schedule => .ok (some .timestamp)
  | .topic | .other _ =>
    match topics.find? fun topic => topic.id == endpoint.id with
    | some topic => .ok (some topic.pair)
    | none => .error ⟨endpoint.id⟩

/-- What a step takes; a step without an input for the value takes nothing. -/
def Step.inputPair (step : Step) : Option Pair :=
  match step.inputs with
  | [] => none
  | first :: rest =>
    if first.isKey then rest.head?.map fun second =>
      { key := some first.type, value := second.type }
    else some { value := first.type }

/-- The pair behind a transform; a filter passes on what it gets. -/
def Operation.passOn (operation : Operation) (pair : Pair) : Pair :=
  match operation.operator, operation.step.output with
  | .filter, _ | _, none => pair
  | _, some output => pair.apply output

/-- Names that differ in hyphens and underscores only are the same type name. -/
def sameTypeName (a b : String) : Bool :=
  Text.replaceChar '-' '_' a == Text.replaceChar '-' '_' b

/-- Compares pairs with a sample, which takes its key from the first pair that has one. -/
def agreeWith : Pair → List Pair → Bool
  | _, [] => true
  | sample, pair :: rest =>
    pair.value == sample.value && match pair.key, sample.key with
      | some key, some other => key == other && agreeWith sample rest
      | some key, none => agreeWith (sample.withKey key) rest
      | none, _ => agreeWith sample rest

/-- All values are equal, and so are all keys that are present. -/
def pairsAgree : List Pair → Bool
  | [] => true
  | first :: rest => agreeWith first rest

end FlowSpec
