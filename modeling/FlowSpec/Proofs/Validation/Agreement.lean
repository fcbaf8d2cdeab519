import FlowSpec.Proofs.Inference.Typing
import FlowSpec.Proofs.State.Steps
import FlowSpec.Proofs.Validation.Sketch
import FlowSpec.Validation.Document

/-!
How far validation goes towards inference. Validation compares every step with a sketch of the pair
that reaches it, and some of what inference asks it does not look at: the targets behind transforms,
the keys that flow from there, and the keys that some steps take. A service whose sources, keys and
sinks meet in these respects is seamless. A dataflow that is valid and whose states are resolved is
inferred exactly if all its services are seamless.
-/

set_option autoImplicit false

namespace FlowSpec

open Validation

/-! ### What validation leaves open -/

/-- The key that an update of states takes is the one that reaches it. -/
def Partition.FindsKeys (partition : Partition) (pair : Pair) : Prop :=
  ∀ step, partition.updateState = some step → step.FindsKey (partition.leaving pair)

/-- The keys that timestamps and updates of states take are those that reach them. -/
structure Window.FindsKeys (window : Window) (pair : Pair) : Prop where
  assignTimestamp : window.assignTimestamp.FindsKey pair
  partition : ∀ partition, window.partition = some partition →
    partition.FindsKeys (passThrough window.transforms pair)

def Service.StageFindsKeys (service : Service) (pair : Pair) : Prop :=
  match service.window, service.partition with
  | some window, _ => window.FindsKeys pair
  | none, some partition => partition.FindsKeys pair
  | none, none => True

/-- Sources and sinks have targets, what the sources bring agrees, and keys are what is taken for
them. -/
structure Service.Seamless (topics : List Topic) (service : Service) (entering : Pair) : Prop where
  first : ∃ first target, service.sources.head? = some first ∧
    first.targetPair topics = .ok (some target) ∧ passThrough first.transforms target = entering
  sources : ∀ source ∈ service.sources, ∃ target, source.targetPair topics = .ok (some target) ∧
    pairsAgree [entering, passThrough source.transforms target]
  stage : service.StageFindsKeys (passThrough service.transforms entering)
  known : ∀ sink ∈ service.sinks, ∃ target, sink.targetPair topics = .ok target
  keys : ∀ sink ∈ service.sinks, ∀ target key found, sink.targetPair topics = .ok (some target) →
    target.key = some key →
    (passThrough sink.transforms
      (service.leavingStage (passThrough service.transforms entering))).key =
      some found → key = found

/-- Blocks of transforms hold nothing else. -/
structure Service.OnlyTransforms (service : Service) : Prop where
  sources : ∀ source ∈ service.sources, ∀ operation ∈ source.transforms,
    operation.operator.isTransform
  transforms : ∀ operation ∈ service.transforms, operation.operator.isTransform
  window : ∀ window, service.window = some window →
    ∀ operation ∈ window.transforms, operation.operator.isTransform
  windowPartition : ∀ window, service.window = some window → ∀ partition,
    window.partition = some partition → ∀ operation ∈ partition.transforms,
      operation.operator.isTransform
  partition : ∀ partition, service.partition = some partition →
    ∀ operation ∈ partition.transforms, operation.operator.isTransform
  sinks : ∀ sink ∈ service.sinks, ∀ operation ∈ sink.transforms, operation.operator.isTransform

/-! ### Well typed services are seamless -/

theorem Partition.Accepts.findsKeys {partition : Partition} {pair : Pair}
    (h : partition.Accepts pair) :
    partition.FindsKeys pair :=
  fun step hstep ↦ (h.updateState step hstep).key

theorem Window.Accepts.findsKeys {window : Window} {pair : Pair} (h : window.Accepts pair) :
    window.FindsKeys pair where
  assignTimestamp := h.assignTimestamp.key
  partition := fun partition hpartition ↦ (h.partition partition hpartition).findsKeys

theorem Service.StageAccepts.findsKeys {service : Service} {pair : Pair}
    (h : service.StageAccepts pair) :
    service.StageFindsKeys pair := by
  revert h
  unfold StageAccepts StageFindsKeys
  cases service.window with
  | some window => exact Window.Accepts.findsKeys
  | none =>
    cases service.partition with
    | some partition => exact Partition.Accepts.findsKeys
    | none => exact id

theorem Endpoint.Delivers.exists_target {topics : List Topic} {sink : Endpoint} {pair : Pair}
    (h : sink.Delivers topics pair) : ∃ target, sink.targetPair topics = .ok target := by
  rcases h with ⟨htarget, -⟩ | ⟨target, htarget, -⟩
  · exact ⟨none, htarget⟩
  · exact ⟨some target, htarget⟩

theorem Endpoint.Delivers.meets {topics : List Topic} {sink : Endpoint} {pair target : Pair}
    (h : sink.Delivers topics pair) (htarget : sink.targetPair topics = .ok (some target)) :
    pair.Meets target := by
  rcases h with ⟨hnone, -⟩ | ⟨found, hfound, hmeets⟩
  · cases hnone.symm.trans htarget
  · cases hfound.symm.trans htarget
    exact hmeets

/-- Inference asks for all that validation leaves open. -/
theorem Service.WellTyped.seamless {topics : List Topic} {service : Service} {entering : Pair}
    (h : service.WellTyped topics entering) : service.Seamless topics entering where
  first := by
    obtain ⟨first, hfirst, target, htarget, -, hentering⟩ := h.first
    exact ⟨first, target, hfirst, htarget, hentering⟩
  sources := by
    intro source hsource
    obtain ⟨_, ⟨target, htarget, -, rfl⟩, hagree⟩ := h.sources source hsource
    exact ⟨target, htarget, hagree⟩
  stage := h.stage.findsKeys
  known := fun sink hsink ↦ (h.sinks sink hsink).delivers.exists_target
  keys := fun sink hsink _ key found htarget ↦
    ((h.sinks sink hsink).delivers.meets htarget).key key found

namespace Validation

/-! ### Windows and partitions that are found valid -/

section Stage

variable {scope : Scope} {step : Step} {partition : Partition} {window : Window} {service : Service}
  {sketch pair output : Pair} {provider : String}

theorem providedMismatch_eq_nil_iff {label what expected found : String} :
    providedMismatch label step what expected provider found = [] ↔ found = expected := by
  unfold providedMismatch
  split_ifs with h <;> simp [h]

theorem sameTypeName_of_valueMismatch {label : String} {parameter : Parameter}
    (hsketch : sketch.Sketches pair) (hparameter : step.valueInput = some parameter)
    (h : valueMismatch label step sketch provider = []) :
    sameTypeName parameter.type pair.value := by
  rw [valueMismatch, hparameter] at h
  rw [providedMismatch_eq_nil_iff.mp h]
  exact hsketch.value

theorem takes_of_timestampProblems (hsketch : sketch.Sketches pair)
    (h : timestampProblems scope step sketch provider = []) (hkey : step.FindsKey pair) :
    step.Takes pair := by
  simp only [timestampProblems, List.append_eq_nil_iff] at h
  obtain ⟨⟨hstep, -⟩, hvalue⟩ := h
  obtain ⟨parameter, hparameter⟩ := exists_valueInput_of_stepProblems (by decide) hstep
  exact ⟨⟨parameter, hparameter, sameTypeName_of_valueMismatch hsketch hparameter hvalue⟩, hkey⟩

/-- Unlike a timestamp, a new key is never assigned by a step whose own key is missing. -/
theorem takes_of_assignKeyProblems (hsketch : sketch.Sketches pair)
    (h : assignKeyProblems scope step sketch provider = []) :
    step.Takes pair ∧ step.output.isSome := by
  simp only [assignKeyProblems, List.append_eq_nil_iff] at h
  obtain ⟨⟨hstep, hkeys⟩, hvalue⟩ := h
  obtain ⟨parameter, hparameter⟩ := exists_valueInput_of_stepProblems (by decide) hstep
  have hkey : step.FindsKey sketch := by
    intro key hkey
    rw [hkey] at hkeys
    cases hfound : sketch.key with
    | none => simp [hfound] at hkeys
    | some found =>
      rw [hfound] at hkeys
      rw [providedMismatch_eq_nil_iff.mp hkeys]
      exact ⟨found, rfl, sameTypeName_refl found⟩
  have houtput : step.output.isSome := by
    simp only [stepProblems, signature, List.append_eq_nil_iff] at hstep
    exact output_of_outputPresent hstep.1.1.1.1.2
  exact ⟨⟨⟨parameter, hparameter, sameTypeName_of_valueMismatch hsketch hparameter hvalue⟩,
    hsketch.findsKey hkey⟩, houtput⟩

theorem sketches_of_partitionOutput (hsketch : sketch.Sketches pair)
    (h : partitionOutput partition sketch = some output) :
    output.Sketches (partition.leaving pair) :=
  sketches_of_transformsOutput (hsketch.keyedPair partition) h

theorem inContext_eq_nil_iff {context : String} {texts : List String} :
    Report.inContext context texts = [] ↔ texts = [] :=
  List.map_eq_nil_iff

theorem accepts_of_partitionProblems
    (htransforms : ∀ operation ∈ partition.transforms, operation.operator.isTransform)
    (hsketch : sketch.Sketches pair) (houtput : partitionOutput partition sketch = some output)
    (h : partitionProblems scope partition sketch provider = [])
    (hkeys : partition.FindsKeys pair) :
    partition.Accepts pair := by
  simp only [partitionProblems, List.append_eq_nil_iff, inContext_eq_nil_iff] at h
  obtain ⟨⟨hassign, hblock⟩, hupdate⟩ := h
  obtain ⟨htakes, hpresent⟩ := takes_of_assignKeyProblems hsketch hassign
  have hkeyed := hsketch.keyedPair partition
  refine ⟨htakes, hpresent, hkeyed.flows (flows_of_transformProblems htransforms hblock), ?_⟩
  intro step hstep
  have hleaving := sketches_of_partitionOutput hsketch houtput
  rw [hstep, Option.map_some, Option.getD_some] at hupdate
  simp only [updateProblems, List.append_eq_nil_iff] at hupdate
  obtain ⟨hsignature, hvalue⟩ := hupdate
  obtain ⟨parameter, hparameter⟩ := exists_valueInput_of_stepProblems (by decide) hsignature
  rw [partitionOutput] at houtput
  rw [houtput, hparameter] at hvalue
  have hsame : sameTypeName parameter.type output.value := by
    by_contra hsame
    simp [hsame] at hvalue
  exact ⟨⟨parameter, hparameter, sameTypeName.trans hsame hleaving.value⟩, hkeys step hstep⟩

/-- What is known of the output of a window rests on what is known of its transforms and of its
partition. -/
theorem exists_of_windowOutput (h : windowOutput window sketch = some output) :
    ∃ middle collected, transformsOutput window.transforms sketch = some middle ∧
      (∀ partition, window.partition = some partition → partitionOutput partition middle =
        some collected) ∧
      (window.partition = none → collected = middle) ∧
      (∀ step, window.flush = some step → step.output.map Output.pair = some output) ∧
      (window.flush = none → output = collected) := by
  unfold windowOutput at h
  obtain ⟨middle, hmiddle, h⟩ := Option.bind_eq_some_iff.mp h
  cases hflush : window.flush with
  | none =>
    rw [hflush] at h
    cases hpartition : window.partition with
    | none =>
      rw [hpartition] at h
      exact ⟨middle, output,
        hmiddle, by simp, fun _ ↦ (Option.some.inj h).symm, by simp, fun _ ↦ rfl⟩
    | some partition =>
      rw [hpartition] at h
      obtain ⟨collected, hcollected, h⟩ := Option.bind_eq_some_iff.mp h
      obtain rfl := Option.some.inj h
      exact ⟨middle, collected, hmiddle, by simpa using hcollected, by simp, by simp, fun _ ↦ rfl⟩
  | some step =>
    rw [hflush] at h
    cases hpartition : window.partition with
    | none =>
      rw [hpartition] at h
      have houtput : step.output.map Output.pair = some output := h
      exact ⟨middle, middle, hmiddle, by simp, fun _ ↦ rfl, by simpa using houtput, by simp⟩
    | some partition =>
      rw [hpartition] at h
      obtain ⟨collected, hcollected, houtput⟩ := Option.bind_eq_some_iff.mp h
      exact ⟨middle, collected,
        hmiddle, by simpa using hcollected, by simp, by simpa using houtput, by simp⟩

theorem sketches_of_windowOutput (hsketch : sketch.Sketches pair)
    (h : windowOutput window sketch = some output) : output.Sketches (window.leaving pair) := by
  obtain ⟨middle, collected, hmiddle, hsome, hnone, hflush, hopen⟩ := exists_of_windowOutput h
  have hpassed := sketches_of_transformsOutput hsketch hmiddle
  have hcollected : collected.Sketches (window.collected pair) := by
    unfold Window.collected
    cases hpartition : window.partition with
    | none =>
      rw [hnone hpartition]
      exact hpassed
    | some partition => exact sketches_of_partitionOutput hpassed (hsome partition hpartition)
  unfold Window.leaving
  cases hstep : window.flush with
  | none =>
    rw [hopen hstep]
    exact hcollected
  | some step =>
    rw [Option.bind_some, hflush step hstep]
    exact Pair.Sketches.refl output

theorem accepts_of_windowProblems
    (htransforms : ∀ operation ∈ window.transforms, operation.operator.isTransform)
    (hpartitions : ∀ partition, window.partition = some partition →
      ∀ operation ∈ partition.transforms, operation.operator.isTransform)
    (hsketch : sketch.Sketches pair) (houtput : windowOutput window sketch = some output)
    (h : windowProblems scope window sketch provider = []) (hkeys : window.FindsKeys pair) :
    window.Accepts pair := by
  obtain ⟨middle, collected, hmiddle, hsome, -, hflush, -⟩ := exists_of_windowOutput houtput
  simp only [windowProblems, hmiddle, List.append_eq_nil_iff, inContext_eq_nil_iff] at h
  obtain ⟨⟨hstamp, hblock⟩, hinner, -⟩ := h
  have hpassed := sketches_of_transformsOutput hsketch hmiddle
  refine ⟨takes_of_timestampProblems hsketch hstamp hkeys.assignTimestamp,
    hsketch.flows (flows_of_transformProblems htransforms hblock), ?_, ?_⟩
  · intro partition hpartition
    rw [hpartition, Option.map_some, Option.getD_some, inContext_eq_nil_iff] at hinner
    exact accepts_of_partitionProblems (hpartitions partition hpartition) hpassed
      (hsome partition hpartition) hinner (hkeys.partition partition hpartition)
  · intro step hstep
    obtain ⟨found, hfound, -⟩ := Option.map_eq_some_iff.mp (hflush step hstep)
    rw [hfound]
    rfl

theorem linesUnlessEmpty_eq_none_iff {texts : List String} :
    Report.linesUnlessEmpty texts = none ↔ texts = [] := by
  unfold Report.linesUnlessEmpty
  cases texts <;> simp

theorem sketches_of_stageOutput (hsketch : sketch.Sketches pair)
    (h : stageOutput service sketch = some output) :
    output.Sketches (service.leavingStage pair) := by
  revert h
  unfold stageOutput Service.leavingStage
  cases service.window with
  | some window => exact sketches_of_windowOutput hsketch
  | none =>
    cases service.partition with
    | some partition => exact sketches_of_partitionOutput hsketch
    | none => exact fun h ↦ Option.some.inj h ▸ hsketch

theorem accepts_of_stageProblems (hblocks : service.OnlyTransforms) (hsketch : sketch.Sketches pair)
    (houtput : stageOutput service sketch = some output)
    (h : stageProblems scope service sketch = []) (hkeys : service.StageFindsKeys pair) :
    service.StageAccepts pair := by
  simp only [stageProblems, Option.toList_eq_nil_iff, linesUnlessEmpty_eq_none_iff] at h
  unfold stageOutput at houtput
  unfold Service.StageFindsKeys at hkeys
  unfold Service.StageAccepts
  cases hwindow : service.window with
  | some window =>
    rw [hwindow] at h houtput hkeys
    exact accepts_of_windowProblems (hblocks.window window hwindow)
      (hblocks.windowPartition window hwindow) hsketch houtput (inContext_eq_nil_iff.mp h) hkeys
  | none =>
    cases hpartition : service.partition with
    | some partition =>
      rw [hwindow, hpartition] at h houtput hkeys
      exact accepts_of_partitionProblems (hblocks.partition partition hpartition) hsketch houtput
        (inContext_eq_nil_iff.mp h) hkeys
    | none => trivial

end Stage

/-! ### Sources and sinks that are found valid -/

section Endpoints

variable {around : Surroundings} {endpoint : Endpoint} {sketch pair target : Pair}

theorem invalidOperators_eq_nil_iff {lines : List String} :
    (if lines.isEmpty then [] else [invalidOperators lines]) = [] ↔ lines = [] := by
  cases lines <;> simp

theorem flows_of_sourceProblems
    (htransforms : ∀ operation ∈ endpoint.transforms, operation.operator.isTransform)
    (htarget : endpoint.targetPair around.topics = .ok (some target))
    (h : sourceProblems around endpoint = []) : Flows endpoint.transforms target := by
  simp only [sourceProblems, List.append_eq_nil_iff] at h
  obtain ⟨⟨-, h⟩, -⟩ := h
  rw [sourceTransforms, htarget] at h
  exact flows_of_transformProblems htransforms (invalidOperators_eq_nil_iff.mp h)

/-- What validation takes for the type of a source is a sketch of what the source brings. -/
theorem sketches_of_sourcePair (htarget : endpoint.targetPair around.topics = .ok (some target))
    (hflows : Flows endpoint.transforms target) (h : sourcePair around endpoint = .ok sketch) :
    sketch.Sketches (passThrough endpoint.transforms target) := by
  unfold sourcePair at h
  cases hlast : endpoint.transforms.getLast? with
  | none =>
    rw [hlast, htarget] at h
    rw [List.getLast?_eq_none_iff.mp hlast, ← Except.ok.inj h]
    exact Pair.Sketches.refl target
  | some last =>
    rw [hlast] at h
    exact sketches_of_chainOutput hflows hlast (Outcome.mapError_eq_ok_iff.mp h)

/-- Groups are reported of those items that have something to report. -/
theorem filterMap_groupUnlessEmpty_eq_nil_iff {α : Type} {heading : α → String}
    {children : α → List Report} {items : List α} :
    items.filterMap (fun item ↦ Report.groupUnlessEmpty (heading item) (children item)) = [] ↔
      ∀ item ∈ items, children item = [] := by
  have hgroup : ∀ item, Report.groupUnlessEmpty (heading item) (children item) = none ↔
      children item = [] := by
    intro item
    unfold Report.groupUnlessEmpty
    cases children item <;> simp
  simp only [List.filterMap_eq_nil_iff, hgroup]

/-- Without transforms, what a sink takes is compared with what it is given. -/
theorem sinkInputLines_of_sinkProblems (hplain : endpoint.transforms = [])
    (htarget : endpoint.targetPair around.topics = .ok (some target))
    (h : sinkProblems around endpoint sketch = []) : sinkInputLines target sketch = [] := by
  have htaken : sinkPair around endpoint = .ok (some target) := by
    rw [sinkPair, hplain, htarget]
    rfl
  simp only [sinkProblems, htaken, hplain, List.getLast?_nil, List.append_eq_nil_iff,
    Option.toList_eq_nil_iff, Option.map_eq_none_iff, linesUnlessEmpty_eq_none_iff] at h
  exact h.2.1

/-- With transforms, what they put out is compared with the target, if there is one of that name. -/
theorem sinkOutputLines_of_sinkProblems {last : Operation}
    (hlast : endpoint.transforms.getLast? = some last)
    (h : sinkProblems around endpoint sketch = []) :
    transformProblems around.scope endpoint.transforms sketch "service" = [] ∧
      ∃ final, chainOutput last = .ok final ∧ sinkOutputLines around endpoint final = [] := by
  simp only [sinkProblems, hlast, List.append_eq_nil_iff, invalidOperators_eq_nil_iff,
    Option.toList_eq_nil_iff, Option.map_eq_none_iff, linesUnlessEmpty_eq_none_iff] at h
  obtain ⟨⟨-, hproblems⟩, -, houtput⟩ := h
  refine ⟨hproblems, ?_⟩
  cases hfinal : chainOutput last with
  | error text => simp [hfinal] at houtput
  | ok final =>
    rw [hfinal] at houtput
    exact ⟨final, rfl, houtput⟩

theorem value_of_sinkInputLines (h : sinkInputLines target sketch = []) :
    sameTypeName target.value sketch.value := by
  by_contra hvalue
  simp [sinkInputLines, hvalue] at h

/-- A sink with transforms has a target, unless the name of the target is not known. -/
theorem value_of_sinkOutputLines {result : Option Pair}
    (hresult : endpoint.targetPair around.topics = .ok result)
    (h : sinkOutputLines around endpoint sketch = []) :
    ∃ target, result = some target ∧ target.value = sketch.value := by
  rw [sinkOutputLines, hresult] at h
  cases result with
  | none => simp at h
  | some target =>
    refine ⟨target, rfl, ?_⟩
    by_contra hvalue
    simp [hvalue] at h

theorem receives_of_sinkProblems
    (htransforms : ∀ operation ∈ endpoint.transforms, operation.operator.isTransform)
    (hsketch : sketch.Sketches pair) (h : sinkProblems around endpoint sketch = [])
    (hknown : ∃ target, endpoint.targetPair around.topics = .ok target)
    (hkeys : ∀ target key found, endpoint.targetPair around.topics = .ok (some target) →
      target.key = some key → (passThrough endpoint.transforms pair).key = some found →
      key = found) :
    endpoint.Receives around.topics pair := by
  obtain ⟨result, hresult⟩ := hknown
  cases hlast : endpoint.transforms.getLast? with
  | none =>
    have hplain := List.getLast?_eq_none_iff.mp hlast
    refine ⟨by rw [hplain]; trivial, ?_⟩
    cases result with
    | none => exact Or.inl ⟨hresult, hplain⟩
    | some target =>
      refine Or.inr ⟨target, hresult, ?_, fun key found ↦ hkeys target key found hresult⟩
      rw [hplain]
      have hvalue := value_of_sinkInputLines (sinkInputLines_of_sinkProblems hplain hresult h)
      exact sameTypeName.trans hvalue hsketch.value
  | some last =>
    obtain ⟨hproblems, final, hfinal, hlines⟩ := sinkOutputLines_of_sinkProblems hlast h
    have hflows := hsketch.flows (flows_of_transformProblems htransforms hproblems)
    obtain ⟨target, rfl, hvalue⟩ := value_of_sinkOutputLines hresult hlines
    refine ⟨hflows, Or.inr ⟨target, hresult, ?_, fun key found ↦ hkeys target key found hresult⟩⟩
    rw [hvalue]
    exact (sketches_of_chainOutput hflows hlast hfinal).value

end Endpoints

/-! ### Services that are found valid -/

/-- What the silence of validation says of a service. -/
structure Silent (around : Surroundings) (service : Service) (sketch middle output : Pair) :
    Prop where
  pair : servicePair around service = .ok sketch
  sources : ∀ source ∈ service.sources, sourceProblems around source = []
  pool : ∀ state ∈ service.states, poolStateProblems around.scope state = []
  transforms : transformProblems around.scope service.transforms sketch "sources" = []
  leaving : transformsOutput service.transforms sketch = some middle
  stage : stageProblems around.scope service middle = []
  behind : stageOutput service middle = some output
  sinks : ∀ sink ∈ service.sinks, sinkProblems around sink output = []

theorem exists_silent {around : Surroundings} {service : Service}
    (h : serviceProblems around service = none) :
    ∃ sketch middle output, Silent around service sketch middle output := by
  unfold serviceProblems at h
  cases hpair : servicePair around service with
  | error report => simp [hpair] at h
  | ok sketch =>
    cases hleaving : transformsOutput service.transforms sketch with
    | none => simp [hpair, hleaving] at h
    | some middle =>
      cases houtput : stageOutput service middle with
      | none => simp [hpair, hleaving, houtput] at h
      | some output =>
        simp only [hpair, hleaving, houtput] at h
        split_ifs at h with hchildren
        simp only [List.isEmpty_iff, List.append_eq_nil_iff, transformReports,
          Option.toList_eq_nil_iff, Option.map_eq_none_iff,
          linesUnlessEmpty_eq_none_iff] at hchildren
        obtain ⟨⟨⟨-, ⟨hsources, hpool⟩, htransforms⟩, hstage⟩, hsinks⟩ := hchildren
        refine ⟨sketch, middle, output, hpair, ?_, List.flatMap_eq_nil_iff.mp hpool, htransforms,
          hleaving, hstage, houtput, ?_⟩
        · exact filterMap_groupUnlessEmpty_eq_nil_iff.mp (List.append_eq_nil_iff.mp hsources).1
        · exact filterMap_groupUnlessEmpty_eq_nil_iff.mp (List.append_eq_nil_iff.mp hsinks).1

/-- A valid service that is seamless is well typed. -/
theorem wellTyped_of_seamless {around : Surroundings} {service : Service} {entering : Pair}
    (hblocks : service.OnlyTransforms) (h : serviceProblems around service = none)
    (hseamless : service.Seamless around.topics entering) :
    service.WellTyped around.topics entering := by
  obtain ⟨sketch, middle, output, hsilent⟩ := exists_silent h
  have hflows : ∀ source ∈ service.sources, ∀ target,
      source.targetPair around.topics = .ok (some target) → Flows source.transforms target :=
    fun source hsource target htarget ↦
      flows_of_sourceProblems (hblocks.sources source hsource) htarget
        (hsilent.sources source hsource)
  obtain ⟨first, target, hfirst, htarget, rfl⟩ := hseamless.first
  have hmem : first ∈ service.sources := List.mem_of_mem_head? hfirst
  -- The sketch that validation starts with is one of the pair that the first source brings.
  have hpair : sourcePair around first = .ok sketch := by
    have hsketch := hsilent.pair
    unfold servicePair at hsketch
    cases hlist : service.sources with
    | nil => simp [hlist] at hfirst
    | cons head rest =>
      rw [hlist] at hsketch hfirst
      obtain rfl := Option.some.inj hfirst
      exact Outcome.mapError_eq_ok_iff.mp hsketch
  have hsketch := sketches_of_sourcePair htarget (hflows first hmem target htarget) hpair
  have hmiddle := sketches_of_transformsOutput hsketch hsilent.leaving
  have houtput := sketches_of_stageOutput hmiddle hsilent.behind
  refine ⟨⟨first, hfirst, target, htarget, hflows first hmem target htarget, rfl⟩, ?_, ?_, ?_, ?_⟩
  · intro source hsource
    obtain ⟨other, hother, hagree⟩ := hseamless.sources source hsource
    exact ⟨_, ⟨other, hother, hflows source hsource other hother, rfl⟩, hagree⟩
  · exact hsketch.flows (flows_of_transformProblems hblocks.transforms hsilent.transforms)
  · exact accepts_of_stageProblems hblocks hmiddle hsilent.behind hsilent.stage hseamless.stage
  · intro sink hsink
    exact receives_of_sinkProblems (hblocks.sinks sink hsink) houtput (hsilent.sinks sink hsink)
      (hseamless.known sink hsink) (hseamless.keys sink hsink)

/-! ### Dataflows -/

theorem serviceProblems_of_validateDataflow {scope : Scope} {dataflow : Dataflow}
    (h : validateDataflow scope dataflow = .ok ()) (service : Service)
    (hservice : service ∈ dataflow.services) :
    serviceProblems { scope, topics := dataflow.topics, schedules := dataflow.schedules } service =
      none := by
  unfold validateDataflow conclude at h
  split_ifs at h with hnodes
  simp only [List.isEmpty_iff, dataflowProblems, List.append_eq_nil_iff] at hnodes
  exact List.filterMap_eq_nil_iff.mp hnodes.1.1.2 service hservice

end Validation

/-- A service whose states are resolved is inferred exactly if it was well typed. -/
theorem exists_infer_iff_of_resolvesTo {topics : List Topic} {service result : Service}
    (h : State.ResolvesTo service result) :
    (∃ typing, Inference.infer topics result = .ok typing) ↔
      ∃ entering, service.WellTyped topics entering := by
  obtain ⟨pool, settle, rfl, hresolved⟩ := h
  have hstates :
      ∀ operation ∈ (Service.mapSteps (retie settle) { service with states := pool }).operations,
      ∀ state ∈ operation.step.states, state.resolved.isSome := by
    rw [Service.operations_mapSteps, List.forall_mem_map]
    exact hresolved
  rw [Inference.exists_infer_iff hstates]
  simp only [Service.wellTyped_retie_iff, Service.wellTyped_pool_iff]

/-- A valid dataflow whose states are resolved is inferred exactly if its services are seamless:
sources and sinks have targets, what the sources bring agrees, and the keys that timestamps, updates
of states and targets take are those that reach them. All else that inference asks has been
validated. -/
theorem exists_inferAll_iff_seamless {scope : Scope} {dataflow resolved : Dataflow}
    (hblocks : ∀ service ∈ dataflow.services, service.OnlyTransforms)
    (hvalid : validateDataflow scope dataflow = .ok ())
    (hstates : State.resolveDataflow scope.shape? dataflow = (resolved, [])) :
    (∃ typings, Inference.inferAll resolved = .ok typings) ↔
      ∀ service ∈ dataflow.services, ∃ entering, service.Seamless dataflow.topics entering := by
  obtain ⟨htopics, hresolves⟩ := State.resolvesTo_of_resolveDataflow hstates
  have hservices : ∀ service ∈ dataflow.services, ∀ result, State.ResolvesTo service result →
      ((∃ typing, Inference.infer dataflow.topics result = .ok typing) ↔
        ∃ entering, service.Seamless dataflow.topics entering) := by
    intro service hservice result hresult
    rw [exists_infer_iff_of_resolvesTo hresult]
    exact exists_congr fun entering ↦ ⟨Service.WellTyped.seamless, wellTyped_of_seamless
      (hblocks service hservice) (serviceProblems_of_validateDataflow hvalid service hservice)⟩
  rw [Inference.exists_inferAll_iff, htopics]
  constructor
  · intro h service hservice
    obtain ⟨result, hmem, hresult⟩ := Outcome.exists_right_of_forall₂ hresolves hservice
    exact (hservices service hservice result hresult).mp (h result hmem)
  · intro h result hresult
    obtain ⟨service, hmem, hservice⟩ := Outcome.exists_left_of_forall₂ hresolves hresult
    exact (hservices service hmem result hservice).mpr (h service hmem)

/-! ### A dataflow that is inferred and one that is not -/

namespace Sales

/-- Sales by shop. -/
def euros : Topic :=
  { id := "euros", name := "euros"
    key := some { type := "string", converter := "raw" }
    value := { type := "u32", converter := "raw" } }

def cents : Topic :=
  { id := "cents", name := "cents", value := { type := "u64", converter := "raw" } }

def shop : Parameter := { name := "shop", type := "string", isKey := true }

def amount : Parameter := { name := "amount", type := "u32" }

def round : Step :=
  { uses := "round", inputs := [{ name := "amount", type := "u64" }],
    output := some { value := "u32" } }

/-- The largest sums by shop. The sources agree behind the transforms of the second, which has no
key, and the state of the update is found in the pool. -/
def service : Service :=
  { name := "sales"
    sources := [{ kind := .topic, id := "euros" },
      { kind := .topic, id := "cents", transforms := [⟨.map, round⟩] }]
    window := some
      { size := .tumbling 10000 0
        assignTimestamp :=
          { uses := "stamp", inputs := [shop, amount, { name := "time", type := "s64" }]
            output := some { value := "s64" } }
        partition := some
          { assignKey :=
              { uses := "by-shop", inputs := [shop, amount], output := some { value := "string" } }
            updateState :=
              some { uses := "add", inputs := [shop, amount], states := [{ name := "totals" }] } }
        flush :=
          some { uses := "largest", output := some { key := some "string", value := "u32" } } }
    sinks := [{ kind := .topic, id := "euros" }]
    states :=
      [{ name := "totals"
         source :=
           .owned (some { name := "totals", type := { key := "string", value := .u32 } }) }] }

def dataflow : Dataflow :=
  { apiVersion := "0.6.0"
    header := { owner := "example", name := "sales", version := "0.1.0" }
    topics := [euros, cents], services := [service] }

def scope : Scope := { types := [] }

def resolved : Dataflow := (State.resolveDataflow scope.shape? dataflow).1

end Sales

theorem exists_inferAll_iff_seamless_sales :
    (∀ service ∈ Sales.dataflow.services, service.OnlyTransforms) ∧
      validateDataflow Sales.scope Sales.dataflow = .ok () ∧
      State.resolveDataflow Sales.scope.shape? Sales.dataflow = (Sales.resolved, []) ∧
      (∃ typings, Inference.inferAll Sales.resolved = .ok typings) ∧
      ∀ service ∈ Sales.dataflow.services, ∃ entering,
        service.Seamless Sales.dataflow.topics entering := by
  have hblocks : ∀ service ∈ Sales.dataflow.services, service.OnlyTransforms := by
    intro service hservice
    obtain rfl := List.mem_singleton.mp hservice
    constructor <;> simp [Sales.service, Operator.isTransform]
  have hvalid : validateDataflow Sales.scope Sales.dataflow = .ok () := rfl
  have hstates : State.resolveDataflow Sales.scope.shape? Sales.dataflow = (Sales.resolved, []) :=
    rfl
  have hinferred : ∃ typings, Inference.inferAll Sales.resolved = .ok typings := ⟨_, rfl⟩
  exact ⟨hblocks, hvalid, hstates, hinferred,
    (exists_inferAll_iff_seamless hblocks hvalid hstates).mp hinferred⟩

namespace Stamping

def words : Topic :=
  { id := "words", name := "words", value := { type := "string", converter := "json" } }

/-- Takes a key of a stream that has none. -/
def stamp : Step :=
  { uses := "stamp"
    inputs :=
      [{ name := "k", type := "string", isKey := true }, { name := "word", type := "string" },
        { name := "time", type := "s64" }]
    output := some { value := "s64" } }

def dataflow : Dataflow :=
  { apiVersion := "0.6.0"
    header := { owner := "example", name := "flow", version := "0.1.0" }
    topics := [words]
    services := [{ name := "count"
                   sources := [{ kind := .topic, id := "words" }]
                   sinks := [{ kind := .topic, id := "words" }]
                   window := some { size := .tumbling 10000 0, assignTimestamp := stamp } }] }

end Stamping

/-- A timestamp that takes a key from a stream without one passes validation and fails in
inference. -/
theorem stamping_valid_not_inferred :
    (∀ service ∈ Stamping.dataflow.services, service.OnlyTransforms) ∧
      validateDataflow { types := [] } Stamping.dataflow = .ok () ∧
      State.resolveDataflow (Scope.shape? { types := [] }) Stamping.dataflow =
        (Stamping.dataflow, []) ∧
      Inference.inferAll Stamping.dataflow =
        .error [{ service := "count", position := "window.assign-timestamp",
                  operator := .assignTimestamp
                  uses := "stamp", mismatch := .keyMissing "string" }] := by
  refine ⟨?_, rfl, rfl, rfl⟩
  intro service hservice
  obtain rfl := List.mem_singleton.mp hservice
  constructor <;> simp

end FlowSpec
