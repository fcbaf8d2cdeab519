import FlowSpec.Code
import FlowSpec.Document.Declaration
import FlowSpec.Import

/-! The parts of a document as it writes them, before types are hoisted and defaults filled in. -/

set_option autoImplicit false

namespace FlowSpec.Document

structure Meta where
  name : String := ""
  version : String := ""
  owner : String := ""
deriving Repr, DecidableEq, Inhabited

def Meta.header (info : Meta) : Header :=
  { owner := info.owner, name := info.name, version := info.version }

/-! ### Topics -/

structure EncodingEntry where
  type : String := ""
  converter : String := ""
deriving Repr, DecidableEq, Inhabited

/-- Where a consumer starts: `beginning`, `end`, or an offset. -/
structure Offset where
  position : String := ""
  value : Int := 0
deriving Repr, DecidableEq, Inhabited

structure ConsumerEntry where
  startingOffset : Option Offset := none
  maxBytes : Option Int := none
  isolation : String := ""
deriving Repr, DecidableEq, Inhabited

structure ProducerEntry where
  lingerMs : Option Nat := none
  batchSize : Option Nat := none
  timeoutMs : Option Nat := none
  compression : String := ""
  isolation : String := ""
deriving Repr, DecidableEq, Inhabited

structure TopicEntry where
  name : String := ""
  key : Option EncodingEntry := none
  value : EncodingEntry := {}
  consumer : Option ConsumerEntry := none
  producer : Option ProducerEntry := none
  profile : String := ""
deriving Repr, DecidableEq, Inhabited

/-- Defaults for all topics. -/
structure DefaultsEntry where
  converter : String := ""
  consumer : Option ConsumerEntry := none
  producer : Option ProducerEntry := none
deriving Repr, DecidableEq, Inhabited

/-- What replaces parts of the document during development. -/
structure DevelopmentEntry where
  converter : String := ""
  imports : List Import := []
  topics : List (String × TopicEntry) := []
deriving Repr, DecidableEq, Inhabited

/-! ### Steps -/

structure InputEntry where
  name : String := ""
  type : String := ""
  isOptional : Bool := false
  kind : String := ""
deriving Repr, DecidableEq, Inhabited

/-- The two halves of a pair's type. -/
structure PairEntry where
  key : String := ""
  value : String := ""
deriving Repr, DecidableEq, Inhabited

structure OutputEntry where
  type : String := ""
  isOptional : Bool := false
  isList : Bool := false
  pair : Option PairEntry := none
deriving Repr, DecidableEq, Inhabited

structure StepEntry where
  operator : String := ""
  uses : String := ""
  inputs : List InputEntry := []
  output : Option OutputEntry := none
  states : List String := []
  run : String := ""
  language : String := ""
  dependencies : List Dependency := []
  line : Nat := 0
deriving Repr, DecidableEq, Inhabited

/-- A step of a package under the name of its function. -/
structure FunctionEntry where
  name : String
  step : StepEntry
deriving Repr, DecidableEq, Inhabited

def FunctionEntry.text (function : FunctionEntry) : String :=
  function.name ++ "(" ++ function.step.operator ++ ")"

/-! ### Services -/

structure PartitionEntry where
  assignKey : StepEntry := {}
  transforms : List StepEntry := []
  updateState : Option StepEntry := none
deriving Repr, DecidableEq, Inhabited

structure TumblingEntry where
  duration : String := ""
  offset : String := ""
deriving Repr, DecidableEq, Inhabited

structure SlidingEntry where
  duration : String := ""
  offset : String := ""
  slide : String := ""
deriving Repr, DecidableEq, Inhabited

inductive SizeEntry where
  | tumbling (size : TumblingEntry)
  | sliding (size : SlidingEntry)
deriving Repr, DecidableEq, Inhabited

structure WatermarkEntry where
  idleness : String := ""
  gracePeriod : String := ""
deriving Repr, DecidableEq, Inhabited

structure WindowEntry where
  size : SizeEntry := .tumbling {}
  watermark : Option WatermarkEntry := none
  assignTimestamp : StepEntry := {}
  transforms : List StepEntry := []
  partition : Option PartitionEntry := none
  flush : Option StepEntry := none
deriving Repr, DecidableEq, Inhabited

structure EndpointEntry where
  kind : String := ""
  id : String := ""
  transforms : List StepEntry := []
deriving Repr, DecidableEq, Inhabited

/-- A state of a service: declared, taken from another service, or the system's. -/
inductive StateEntry where
  | declared (declaration : Declaration)
  | reference (target : String)
  | system (kind : String)
deriving Inhabited

structure ServiceEntry where
  sources : List EndpointEntry := []
  sinks : List EndpointEntry := []
  transforms : List StepEntry := []
  window : Option WindowEntry := none
  partition : Option PartitionEntry := none
  states : List (String × StateEntry) := []
deriving Inhabited

/-! ### Documents -/

structure DataflowDocument where
  apiVersion : String
  header : Meta := {}
  imports : List Import := []
  types : List (String × Declaration) := []
  topics : List (String × TopicEntry) := []
  defaults : Option DefaultsEntry := none
  development : Option DevelopmentEntry := none
  services : List (String × ServiceEntry) := []
  schedules : List (String × String) := []
deriving Inhabited

structure PackageDocument where
  apiVersion : String
  header : Meta := {}
  imports : List Import := []
  types : List (String × Declaration) := []
  states : List (String × Declaration) := []
  functions : List FunctionEntry := []
  development : Option DevelopmentEntry := none
deriving Inhabited

end FlowSpec.Document
