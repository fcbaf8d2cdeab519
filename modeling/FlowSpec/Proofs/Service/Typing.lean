import Mathlib.Tactic.MkIffOfInductiveProp
import FlowSpec.Proofs.Service.Traversal
import FlowSpec.Validation.Service

/-!
When a service is well typed. A step takes a pair if it has an input for the value and its inputs
have the names of the pair's types. Every stage passes on a pair, which is told here without traces
or positions, and a service is well typed if each of its stages takes the pair that reaches it. The
states of steps have no part in this.
-/

set_option autoImplicit false

namespace FlowSpec

open Validation

variable {topics : List Topic} {service : Service} {pair : Pair}

/-! ### Steps and transforms -/

theorem Step.inputPair_eq (step : Step) : step.inputPair =
    step.valueInput.map fun parameter ↦ { key := keyInput step, value := parameter.type } := by
  unfold Step.inputPair Step.valueInput Step.requiresKey keyInput
  cases step.inputs with
  | nil => rfl
  | cons first rest =>
    by_cases hkey : first.isKey
    · simp [hkey, List.head?_eq_getElem?]
    · simp [hkey]

/-- A key that the step takes is there, under its name. -/
def Step.FindsKey (step : Step) (pair : Pair) : Prop :=
  ∀ key, keyInput step = some key → ∃ found, pair.key = some found ∧ sameTypeName key found

/-- The step's inputs are those that a pair provides. -/
@[mk_iff]
structure Step.Takes (step : Step) (pair : Pair) : Prop where
  value : ∃ parameter, step.valueInput = some parameter ∧ sameTypeName parameter.type pair.value
  key : step.FindsKey pair

theorem Step.takes_iff_of_valueInput {step : Step} {parameter : Parameter}
    (h : step.valueInput = some parameter) :
    step.Takes pair ↔ step.FindsKey pair ∧ sameTypeName parameter.type pair.value := by
  constructor
  · rintro ⟨⟨found, hfound, hsame⟩, hkey⟩
    obtain rfl := Option.some.inj (h.symm.trans hfound)
    exact ⟨hkey, hsame⟩
  · rintro ⟨hkey, hsame⟩
    exact ⟨⟨parameter, h, hsame⟩, hkey⟩

/-- The pair behind a list of transforms. -/
def passThrough (operations : List Operation) (pair : Pair) : Pair :=
  operations.foldl (fun pair operation ↦ operation.passOn pair) pair

/-- Every transform takes the pair that reaches it. -/
def Flows : List Operation → Pair → Prop
  | [], _ => True
  | operation :: rest, pair => operation.step.Takes pair ∧ Flows rest (operation.passOn pair)

theorem passThrough_append (first second : List Operation) (pair : Pair) :
    passThrough (first ++ second) pair = passThrough second (passThrough first pair) :=
  List.foldl_append

theorem flows_append_iff {first second : List Operation} :
    Flows (first ++ second) pair ↔ Flows first pair ∧ Flows second (passThrough first pair) := by
  induction first generalizing pair with
  | nil => simp [Flows, passThrough]
  | cons operation rest ih =>
    rw [List.cons_append, Flows, Flows, ih, and_assoc]
    rfl

/-! ### Windows and partitions -/

/-- The pair behind a partition. -/
def Partition.leaving (partition : Partition) (pair : Pair) : Pair :=
  passThrough partition.transforms (keyedPair partition pair)

@[mk_iff]
structure Partition.Accepts (partition : Partition) (pair : Pair) : Prop where
  assignKey : partition.assignKey.Takes pair
  output : partition.assignKey.output.isSome
  transforms : Flows partition.transforms (keyedPair partition pair)
  updateState : ∀ step, partition.updateState = some step → step.Takes (partition.leaving pair)

/-- The pair that a window collects until it is flushed. -/
def Window.collected (window : Window) (pair : Pair) : Pair :=
  (window.partition.map fun partition ↦ partition.leaving (passThrough window.transforms pair)).getD
    (passThrough window.transforms pair)

/-- The pair behind a window. -/
def Window.leaving (window : Window) (pair : Pair) : Pair :=
  ((window.flush.bind Step.output).map Output.pair).getD (window.collected pair)

@[mk_iff]
structure Window.Accepts (window : Window) (pair : Pair) : Prop where
  assignTimestamp : window.assignTimestamp.Takes pair
  transforms : Flows window.transforms pair
  partition : ∀ partition, window.partition = some partition →
    partition.Accepts (passThrough window.transforms pair)
  flush : ∀ step, window.flush = some step → step.output.isSome

/-- The pair behind the window or the partition of a service. -/
def Service.leavingStage (service : Service) (pair : Pair) : Pair :=
  match service.window, service.partition with
  | some window, _ => window.leaving pair
  | none, some partition => partition.leaving pair
  | none, none => pair

def Service.StageAccepts (service : Service) (pair : Pair) : Prop :=
  match service.window, service.partition with
  | some window, _ => window.Accepts pair
  | none, some partition => partition.Accepts pair
  | none, none => True

/-! ### Sources and sinks -/

/-- The source has a target, and what comes from it reaches the service as a pair. -/
def Endpoint.Brings (topics : List Topic) (source : Endpoint) (pair : Pair) : Prop :=
  ∃ target, source.targetPair topics = .ok (some target) ∧ Flows source.transforms target ∧
    passThrough source.transforms target = pair

/-- A target takes a pair. The names of keys are compared as they are, and only if both are
there. -/
@[mk_iff]
structure Pair.Meets (pair target : Pair) : Prop where
  value : sameTypeName target.value pair.value
  key : ∀ key found, target.key = some key → pair.key = some found → key = found

/-- What leaves the transforms of a sink meets its target; without transforms there need not be
one. -/
def Endpoint.Delivers (topics : List Topic) (sink : Endpoint) (pair : Pair) : Prop :=
  (sink.targetPair topics = .ok none ∧ sink.transforms = []) ∨
    ∃ target, sink.targetPair topics = .ok (some target) ∧ pair.Meets target

@[mk_iff]
structure Endpoint.Receives (topics : List Topic) (sink : Endpoint) (pair : Pair) : Prop where
  transforms : Flows sink.transforms pair
  delivers : sink.Delivers topics (passThrough sink.transforms pair)

/-! ### Services -/

/-- A service is well typed if a pair enters it, from its first source, and every stage takes what
reaches it. -/
@[mk_iff]
structure Service.WellTyped (topics : List Topic) (service : Service) (entering : Pair) : Prop where
  first : ∃ first, service.sources.head? = some first ∧ first.Brings topics entering
  sources : ∀ source ∈ service.sources, ∃ pair, source.Brings topics pair ∧
    pairsAgree [entering, pair]
  transforms : Flows service.transforms entering
  stage : service.StageAccepts (passThrough service.transforms entering)
  sinks : ∀ sink ∈ service.sinks,
    sink.Receives topics (service.leavingStage (passThrough service.transforms entering))

/-! ### Changes of states -/

section Retie

variable (settle : Step → List StepState)

@[simp]
theorem output_retie (operator : Operator) (step : Step) :
    (retie settle operator step).output = step.output :=
  rfl

@[simp] theorem takes_retie_iff {operator : Operator} {step : Step} :
    (retie settle operator step).Takes pair ↔ step.Takes pair := by
  rw [Step.takes_iff, Step.takes_iff]
  rfl

@[simp]
theorem passThrough_retie (operations : List Operation) (pair : Pair) :
    passThrough (operations.map (Operation.mapStep (retie settle))) pair =
      passThrough operations pair := by
  unfold passThrough
  rw [List.foldl_map]
  rfl

@[simp] theorem flows_retie_iff {operations : List Operation} :
    Flows (operations.map (Operation.mapStep (retie settle))) pair ↔ Flows operations pair := by
  induction operations generalizing pair with
  | nil => rfl
  | cons operation rest ih =>
    rw [List.map_cons, Flows, Flows, ih, Operation.mapStep, takes_retie_iff]
    rfl

@[simp]
theorem Partition.leaving_retie (partition : Partition) (pair : Pair) :
    (partition.mapSteps (retie settle)).leaving pair = partition.leaving pair :=
  passThrough_retie settle partition.transforms _

@[simp] theorem Partition.accepts_retie_iff {partition : Partition} :
    (partition.mapSteps (retie settle)).Accepts pair ↔ partition.Accepts pair := by
  have hkeyed : keyedPair (partition.mapSteps (retie settle)) pair = keyedPair partition pair := rfl
  rw [Partition.accepts_iff, Partition.accepts_iff, hkeyed, leaving_retie]
  simp [Partition.mapSteps]

@[simp]
theorem Window.leaving_retie (window : Window) (pair : Pair) :
    (window.mapSteps (retie settle)).leaving pair = window.leaving pair := by
  have hcollected : (window.mapSteps (retie settle)).collected pair = window.collected pair := by
    cases hpartition : window.partition <;> simp [Window.collected, Window.mapSteps, hpartition]
  unfold Window.leaving
  rw [hcollected]
  cases hflush : window.flush <;> simp [Window.mapSteps, hflush]

@[simp] theorem Window.accepts_retie_iff {window : Window} :
    (window.mapSteps (retie settle)).Accepts pair ↔ window.Accepts pair := by
  rw [Window.accepts_iff, Window.accepts_iff]
  simp [Window.mapSteps]

theorem Service.stageAccepts_retie_iff :
    (service.mapSteps (retie settle)).StageAccepts pair ↔ service.StageAccepts pair := by
  cases hwindow : service.window <;> cases hpartition : service.partition <;>
    simp [Service.StageAccepts, Service.mapSteps, hwindow, hpartition]

theorem Service.leavingStage_retie (service : Service) (pair : Pair) :
    (service.mapSteps (retie settle)).leavingStage pair = service.leavingStage pair := by
  cases hwindow : service.window <;> cases hpartition : service.partition <;>
    simp [Service.leavingStage, Service.mapSteps, hwindow, hpartition]

@[simp]
theorem Endpoint.targetPair_mapSteps (f : Operator → Step → Step) (topics : List Topic)
    (endpoint : Endpoint) :
    (endpoint.mapSteps f).targetPair topics = endpoint.targetPair topics := rfl

@[simp] theorem Endpoint.brings_retie_iff {source : Endpoint} :
    (source.mapSteps (retie settle)).Brings topics pair ↔ source.Brings topics pair := by
  simp [Endpoint.Brings, Endpoint.mapSteps, Endpoint.targetPair]

@[simp] theorem Endpoint.receives_retie_iff {sink : Endpoint} :
    (sink.mapSteps (retie settle)).Receives topics pair ↔ sink.Receives topics pair := by
  rw [Endpoint.receives_iff, Endpoint.receives_iff, Endpoint.Delivers, Endpoint.Delivers,
    targetPair_mapSteps]
  simp [Endpoint.mapSteps]

/-- Types do not depend on the pool of a service. -/
theorem Service.wellTyped_pool_iff {entering : Pair}
    (pool : List PoolState) : Service.WellTyped topics { service with states := pool } entering ↔
      service.WellTyped topics entering := by
  rw [Service.wellTyped_iff, Service.wellTyped_iff]
  rfl

/-- Types do not depend on the states of steps. -/
theorem Service.wellTyped_retie_iff {entering : Pair} :
    (service.mapSteps (retie settle)).WellTyped topics entering ↔
      service.WellTyped topics entering := by
  rw [Service.wellTyped_iff, Service.wellTyped_iff, stageAccepts_retie_iff, leavingStage_retie]
  simp [Service.mapSteps]

end Retie

end FlowSpec
