import FlowSpec.Proofs.Inference.Layout
import FlowSpec.Proofs.Inference.Typing
import Mathlib.Data.List.Forall2

/-!
What inference records. Every stage records the steps of its segments, one for one and in order,
each with the pair that reaches it, and the pairs are linked: a step is given what the step before
it passes on (`Records`). Stages that follow one another record what they record together
(`Records.andThen`). So the record of a service is that of its layout, and is at once the list of
its operations and what a walk over its steps meets (`infer_connected`).
-/

set_option autoImplicit false

namespace FlowSpec

/-! ### Walks -/

/-- What is recorded of an operation. -/
def Operation.label (operation : Operation) : Operator × String :=
  (operation.operator, operation.step.uses)

/-- Notes a step that is met, and leaves it as it is. -/
def noteStep (operator : Operator) (step : Step) : StateM (List (Operator × String)) Step := do
  modify fun met ↦ met ++ [(operator, step.uses)]
  return step

/-- The steps that a walk over a service meets, in their order. -/
def Service.walked (service : Service) : List (Operator × String) :=
  ((service.visitSteps noteStep).run []).2

theorem run_visitEach_noteStep (operations : List Operation) (met : List (Operator × String)) :
    ((visitEach noteStep operations).run met).2 = met ++ operations.map Operation.label := by
  induction operations generalizing met with
  | nil =>
    rw [visitEach_nil, List.map_nil, List.append_nil]
    rfl
  | cons operation rest ih =>
    rw [visitEach_cons, List.map_cons, ← List.singleton_append, ← List.append_assoc]
    exact ih (met ++ [operation.label])

/-- A walk meets the operations that the service lists. -/
theorem Service.walked_eq (service : Service) :
    service.walked = service.operations.map Operation.label := by
  obtain ⟨fill, -, hvisit⟩ := service.exists_fill
  rw [Service.walked, hvisit]
  exact run_visitEach_noteStep service.operations []

namespace Inference

open Outcome

/-! ### Records -/

def StepTyping.label (step : StepTyping) : Operator × String := (step.operator, step.uses)

/-- A step is recorded where it stands, with its operator and its function. Only aggregates are
given a pair that they need not take. -/
structure Recorded (entry : String × Operation) (step : StepTyping) : Prop where
  position : step.position = entry.1
  label : step.label = entry.2.label
  takes : entry.2.operator ≠ .aggregate → entry.2.step.Takes step.input

/-- Steps lead from a pair to a pair: each is given what the one before it passes on. -/
def Linked : Pair → List StepTyping → Pair → Prop
  | first, [], last => first = last
  | first, step :: rest, last => step.input = first ∧ Linked step.output rest last

theorem Linked.append {first middle last : Pair} {steps more : List StepTyping}
    (h : Linked first steps middle) (hmore : Linked middle more last) :
    Linked first (steps ++ more) last := by
  induction steps generalizing first with
  | nil =>
    obtain rfl : first = middle := h
    exact hmore
  | cons step rest ih => exact ⟨h.1, ih h.2⟩

/-- From a pair, the steps of segments are recorded, and lead to the pair of the trace. -/
structure Records (segments : List Segment) (pair : Pair) (trace : Trace) : Prop where
  entries : List.Forall₂ Recorded (segments.flatMap Segment.entries) trace.steps
  linked : Linked pair trace.steps trace.pair

variable {topics : List Topic} {operation : Operation} {step : Step} {steps : List StepTyping}
  {index : Nat}

variable {pair : Pair} {trace result : Trace} {segments more : List Segment}

theorem Records.nil (pair : Pair) : Records [] pair { pair } := ⟨.nil, rfl⟩

/-- What goes on from a trace is recorded behind it. -/
theorem Records.andThen {next : Pair → Except Error Trace} (h : Records segments pair trace)
    (hnext : ∀ rest, next trace.pair = .ok rest → Records more trace.pair rest)
    (hresult : trace.andThen next = .ok result) : Records (segments ++ more) pair result := by
  obtain ⟨rest, hrest, hresult⟩ := bind_eq_ok_iff.mp hresult
  obtain rfl := Except.ok.inj hresult
  obtain ⟨hentries, hlinked⟩ := hnext rest hrest
  refine ⟨?_, h.linked.append hlinked⟩
  rw [List.flatMap_append]
  exact List.rel_append h.entries hentries

/-- What comes behind a stage is recorded if it is there. -/
theorem Records.andThenOptional {α : Type} {part : Option α} {layout : α → List Segment}
    {next : α → Pair → Except Error Trace} (h : Records segments pair trace)
    (hnext : ∀ part pair rest, next part pair = .ok rest → Records (layout part) pair rest)
    (hnone : part = none → Except.ok (ε := Error) trace = .ok result)
    (hsome : ∀ value, part = some value → trace.andThen (next value) = .ok result) :
    Records (segments ++ (part.map layout).getD []) pair result := by
  cases part with
  | none =>
    obtain rfl := Except.ok.inj (hnone rfl)
    rw [Option.map_none, Option.getD_none, List.append_nil]
    exact h
  | some value => exact h.andThen (hnext value trace.pair) (hsome value rfl)

section Stages

variable (service position : String)

/-! ### Steps and blocks -/

theorem takes_of_expect {rest : Except Error Trace}
    (h : (expect service position operation pair >>= fun _ ↦ rest) = .ok trace) :
    operation.step.Takes pair ∧ rest = .ok trace := by
  obtain ⟨⟨⟩, hexpect, h⟩ := bind_eq_ok_iff.mp h
  exact ⟨(expect_eq_ok_iff service position).mp hexpect, h⟩

theorem recorded_typing (output : Pair)
    (htakes : operation.operator ≠ .aggregate → operation.step.Takes pair) :
    Recorded (position, operation) (typing position operation pair output) :=
  ⟨rfl, rfl, htakes⟩

theorem records_step (output : Pair)
    (htakes : operation.operator ≠ .aggregate → operation.step.Takes pair) :
    Records [.step position operation] pair
      { pair := output, steps := [typing position operation pair output] } :=
  ⟨.cons (recorded_typing position output htakes) .nil, rfl, rfl⟩

/-- The induction is on the operations; the members are counted on from any number. -/
theorem recorded_of_chain {operations : List Operation}
    (h : chain service position index operations pair = .ok trace) :
    List.Forall₂ Recorded (Segment.counted position index operations) trace.steps ∧
      Linked pair trace.steps trace.pair := by
  induction operations generalizing index pair trace with
  | nil =>
    obtain rfl := Except.ok.inj h
    exact ⟨.nil, rfl⟩
  | cons operation rest ih =>
    obtain ⟨htakes, h⟩ := takes_of_expect service _ h
    obtain ⟨others, hothers, h⟩ := bind_eq_ok_iff.mp h
    obtain rfl := Except.ok.inj h
    obtain ⟨hrecorded, hlinked⟩ := ih hothers
    rw [Segment.counted_cons]
    exact ⟨.cons (recorded_typing _ _ fun _ ↦ htakes) hrecorded, rfl, hlinked⟩

theorem records_of_chain {operations : List Operation}
    (h : chain service position 0 operations pair = .ok trace) :
    Records [.block position operations] pair trace := by
  obtain ⟨hrecorded, hlinked⟩ := recorded_of_chain service position h
  refine ⟨?_, hlinked⟩
  rw [List.flatMap_singleton]
  exact hrecorded

theorem records_of_check (h : check service position operation pair = .ok trace) :
    Records [.step position operation] pair trace := by
  obtain ⟨htakes, h⟩ := takes_of_expect service position h
  obtain rfl := Except.ok.inj h
  exact records_step position pair fun _ ↦ htakes

theorem records_of_inferUpdate (h : inferUpdate service position step pair = .ok trace) :
    Records [.step position ⟨.updateState, step⟩] pair trace := by
  obtain ⟨htakes, h⟩ := takes_of_expect service position h
  split at h
  · cases h
  · obtain rfl := Except.ok.inj h
    exact records_step position pair fun _ ↦ htakes

theorem records_of_inferAssignKey (h : inferAssignKey service position step pair = .ok trace) :
    Records [.step position ⟨.assignKey, step⟩] pair trace := by
  obtain ⟨htakes, h⟩ := takes_of_expect service position h
  split at h
  · cases h
  · obtain rfl := Except.ok.inj h
    exact records_step position _ fun _ ↦ htakes

theorem records_of_inferFlush (h : inferFlush service position step pair = .ok trace) :
    Records [.step position ⟨.aggregate, step⟩] pair trace := by
  unfold inferFlush at h
  dsimp only at h
  split at h
  · cases h
  · obtain rfl := Except.ok.inj h
    exact records_step position _ fun hne ↦ absurd rfl hne

/-! ### Windows and partitions -/

theorem records_of_inferPartition {partition : Partition}
    (h : inferPartition service position partition pair = .ok trace) :
    Records (partition.layout position) pair trace := by
  obtain ⟨keyed, hkeyed, h⟩ := bind_eq_ok_iff.mp h
  obtain ⟨transformed, htransformed, h⟩ := bind_eq_ok_iff.mp h
  have hrecords := (records_of_inferAssignKey service _ hkeyed).andThen
    (fun _ ↦ records_of_chain service _) htransformed
  refine hrecords.andThenOptional (fun _ _ _ ↦ records_of_inferUpdate service _) (fun hnone ↦ ?_)
    fun update hsome ↦ ?_
  · rwa [hnone] at h
  · rwa [hsome] at h

theorem records_of_inferWindow {window : Window} (h : inferWindow service window pair = .ok trace) :
    Records window.layout pair trace := by
  obtain ⟨stamped, hstamped, h⟩ := bind_eq_ok_iff.mp h
  obtain ⟨transformed, htransformed, h⟩ := bind_eq_ok_iff.mp h
  have hrecords :=
    (records_of_check service _ hstamped).andThen (fun _ ↦ records_of_chain service _) htransformed
  unfold Window.layout
  cases hpartition : window.partition with
  | none =>
    rw [hpartition] at h
    refine hrecords.andThenOptional (fun _ _ _ ↦ records_of_inferFlush service _) (fun hnone ↦ ?_)
      fun flush hsome ↦ ?_
    · rwa [hnone] at h
    · rwa [hsome] at h
  | some partition =>
    rw [hpartition] at h
    obtain ⟨collected, hcollected, hend⟩ := bind_eq_ok_iff.mp h
    have hcollects := hrecords.andThen (fun _ ↦ records_of_inferPartition service _) hcollected
    refine hcollects.andThenOptional (fun _ _ _ ↦ records_of_inferFlush service _) (fun hnone ↦ ?_)
      fun flush hsome ↦ ?_
    · rwa [hnone] at hend
    · rwa [hsome] at hend

/-! ### Sources and sinks -/

/-- The transforms of a source lead from its target to what it brings. -/
def Sourced (topics : List Topic) (member : Endpoint × Nat) (trace : Trace) : Prop :=
  ∃ target, member.1.targetPair topics = .ok (some target) ∧
    Records [member.1.segment "sources" member.2] target trace

/-- The transforms of a sink lead on from the pair that leaves the service. -/
def Sunk (leaving : Pair) (member : Endpoint × Nat) (trace : Trace) : Prop :=
  Records [member.1.segment "sinks" member.2] leaving trace

theorem sourced_of_inferSource {source : Endpoint}
    (h : inferSource service topics index source = .ok trace) :
    Sourced topics (source, index) trace := by
  unfold inferSource at h
  dsimp only at h
  split at h
  · cases h
  · cases h
  next target htarget => exact ⟨target, htarget, records_of_chain service _ h⟩

theorem sourced_of_inferOthers {first : Pair} {sources : List Endpoint}
    (h : inferOthers service topics first index sources = .ok steps) :
    ∃ traces, List.Forall₂ (Sourced topics) (sources.zipIdx index) traces ∧
      steps = traces.flatMap Trace.steps := by
  induction sources generalizing index steps with
  | nil =>
    obtain rfl := Except.ok.inj h
    exact ⟨[], .nil, rfl⟩
  | cons source rest ih =>
    obtain ⟨trace, htrace, h⟩ := bind_eq_ok_iff.mp h
    split_ifs at h
    · obtain ⟨others, hothers, h⟩ := bind_eq_ok_iff.mp h
      obtain rfl := Except.ok.inj h
      obtain ⟨traces, htraces, rfl⟩ := ih hothers
      exact ⟨trace :: traces, .cons (sourced_of_inferSource service htrace) htraces, rfl⟩
    · cases h

/-- The first source brings the pair that enters the service. -/
theorem sourced_of_inferSources {sources : List Endpoint}
    (h : inferSources service topics sources = .ok trace) :
    ∃ traces, List.Forall₂ (Sourced topics) sources.zipIdx traces ∧
      trace.steps = traces.flatMap Trace.steps ∧ traces.head?.map Trace.pair = some trace.pair := by
  cases sources with
  | nil => cases h
  | cons first rest =>
    obtain ⟨entering, hfirst, h⟩ := bind_eq_ok_iff.mp h
    obtain ⟨steps, hsteps, h⟩ := bind_eq_ok_iff.mp h
    obtain rfl := Except.ok.inj h
    obtain ⟨traces, htraces, rfl⟩ := sourced_of_inferOthers service hsteps
    exact ⟨entering :: traces, .cons (sourced_of_inferSource service hfirst) htraces, rfl, rfl⟩

theorem sunk_of_inferSinks {sinks : List Endpoint}
    (h : inferSinks service topics pair index sinks = .ok steps) :
    ∃ traces, List.Forall₂ (Sunk pair) (sinks.zipIdx index) traces ∧
      steps = traces.flatMap Trace.steps := by
  induction sinks generalizing index steps with
  | nil =>
    obtain rfl := Except.ok.inj h
    exact ⟨[], .nil, rfl⟩
  | cons sink rest ih =>
    obtain ⟨trace, htrace, h⟩ := bind_eq_ok_iff.mp h
    obtain ⟨⟨⟩, -, h⟩ := bind_eq_ok_iff.mp h
    obtain ⟨others, hothers, h⟩ := bind_eq_ok_iff.mp h
    obtain rfl := Except.ok.inj h
    obtain ⟨traces, htraces, rfl⟩ := ih hothers
    exact ⟨trace :: traces, .cons (records_of_chain service _ htrace) htraces, rfl⟩

end Stages

theorem records_of_inferStage {service : Service} (h : inferStage service pair = .ok trace) :
    Records service.stageLayout pair trace := by
  unfold inferStage at h
  unfold Service.stageLayout
  cases hwindow : service.window with
  | some window =>
    rw [hwindow] at h
    exact records_of_inferWindow service.name h
  | none =>
    cases hpartition : service.partition with
    | some partition =>
      rw [hwindow, hpartition] at h
      exact records_of_inferPartition service.name "partition" h
    | none =>
      rw [hwindow, hpartition] at h
      obtain rfl := Except.ok.inj h
      exact Records.nil pair

/-! ### Services -/

/-- The record of a service falls into chains. Each source has one, from its target, and the first
of them ends with the pair that enters the service. The chain between sources and sinks leads from
there to the pair that leaves the service, and from that pair each sink has a chain. -/
structure Connected (topics : List Topic) (service : Service) (typing : ServiceTyping)
    (sources : List Trace) (stage : Trace) (sinks : List Trace) : Prop where
  steps : typing.steps = sources.flatMap Trace.steps ++ stage.steps ++ sinks.flatMap Trace.steps
  sourced : List.Forall₂ (Sourced topics) service.sources.zipIdx sources
  entering : sources.head?.map Trace.pair = some typing.input
  staged : Records (.block "transforms" service.transforms :: service.stageLayout)
    typing.input stage
  leaving : stage.pair = typing.output
  sunk : List.Forall₂ (Sunk typing.output) service.sinks.zipIdx sinks

theorem exists_connected {service : Service} {typing : ServiceTyping}
    (h : infer topics service = .ok typing) :
    ∃ sources stage sinks, Connected topics service typing sources stage sinks := by
  obtain ⟨entering, hentering, h⟩ := bind_eq_ok_iff.mp h
  obtain ⟨transformed, htransformed, h⟩ := bind_eq_ok_iff.mp h
  obtain ⟨leaving, hleaving, h⟩ := bind_eq_ok_iff.mp h
  obtain ⟨drained, hdrained, h⟩ := bind_eq_ok_iff.mp h
  obtain rfl := Except.ok.inj h
  obtain ⟨sources, hsourced, hsteps, hfirst⟩ := sourced_of_inferSources service.name hentering
  obtain ⟨sinks, hsunk, rfl⟩ := sunk_of_inferSinks service.name hdrained
  -- the stages go on from the steps of the sources, which are no part of their chain
  obtain ⟨block, hblock, htransformed⟩ := bind_eq_ok_iff.mp htransformed
  obtain rfl := Except.ok.inj htransformed
  obtain ⟨rest, hrest, hleaving⟩ := bind_eq_ok_iff.mp hleaving
  obtain rfl := Except.ok.inj hleaving
  have hstaged : block.andThen (inferStage service) =
      .ok { pair := rest.pair, steps := block.steps ++ rest.steps } :=
    bind_eq_ok_iff.mpr ⟨rest, hrest, rfl⟩
  refine ⟨sources, _, sinks, ?_, hsourced, hfirst,
    (records_of_chain service.name "transforms" hblock).andThen
    (fun _ ↦ records_of_inferStage) hstaged, rfl, hsunk⟩
  simp [hsteps]

/-- Chains of sources or sinks are recorded one behind the other. -/
theorem recorded_flatMap {members : List (Endpoint × Nat)} {traces : List Trace} {role : String}
    (h : List.Forall₂ (fun member trace ↦ ∃ pair,
      Records [member.1.segment role member.2] pair trace) members traces) :
    List.Forall₂ Recorded
      ((members.map fun member ↦ member.1.segment role member.2).flatMap Segment.entries)
      (traces.flatMap Trace.steps) := by
  induction h with
  | nil => exact .nil
  | cons hhead _ ih =>
    obtain ⟨pair, hrecords⟩ := hhead
    have hentries := hrecords.entries
    rw [List.flatMap_singleton] at hentries
    exact List.rel_append hentries ih

/-- The steps of the layout are recorded, one for one and in order. -/
theorem Connected.recorded {service : Service} {typing : ServiceTyping} {sources sinks : List Trace}
    {stage : Trace} (h : Connected topics service typing sources stage sinks) :
    List.Forall₂ Recorded (service.layout.flatMap Segment.entries) typing.steps := by
  have hsources :=
    recorded_flatMap (h.sourced.imp fun _ _ ⟨target, _, hrecords⟩ ↦ ⟨target, hrecords⟩)
  have hsinks := recorded_flatMap (h.sunk.imp fun _ _ hrecords ↦ ⟨_, hrecords⟩)
  rw [h.steps, Service.layout, List.flatMap_append, List.flatMap_append]
  exact List.rel_append (List.rel_append hsources h.staged.entries) hsinks

/-- Inference records every step of a service, in the order in which the service lists them and a
walk meets them, each at a position of its own, and the recorded pairs lead from the sources through
all stages to the sinks. -/
theorem infer_connected (topics : List Topic) (service : Service) (typing : ServiceTyping)
    (hstage : service.window = none ∨ service.partition = none)
    (h : infer topics service = .ok typing) :
    typing.steps.map StepTyping.label = service.operations.map Operation.label ∧
      typing.steps.map StepTyping.label = service.walked ∧
      (typing.steps.map StepTyping.position).Nodup ∧
      ∃ sources stage sinks, Connected topics service typing sources stage sinks := by
  obtain ⟨sources, stage, sinks, hconnected⟩ := exists_connected h
  have hrecorded := hconnected.recorded
  have hlabels : typing.steps.map StepTyping.label = service.operations.map Operation.label := by
    rw [← Service.operations_layout hstage, Segment.flatMap_operations, List.map_map]
    exact map_eq_map_of_forall₂ hrecorded fun _ _ hstep ↦ hstep.label
  refine ⟨hlabels, hlabels.trans service.walked_eq.symm, ?_, sources, stage, sinks, hconnected⟩
  rw [map_eq_map_of_forall₂ hrecorded fun _ _ hstep ↦ hstep.position]
  exact service.nodup_positions

namespace Tally

def lines : Topic :=
  { id := "lines", name := "lines", value := { type := "string", converter := "raw" } }

def totals : Topic :=
  { id := "totals", name := "totals", value := { type := "u64", converter := "raw" } }

/-- Takes a value of one type and makes one of another. -/
def convert (uses input output : String) : Step :=
  { uses, inputs := [{ name := "value", type := input }], output := some { value := output } }

/-- Has a step in every stage: two sources, one with a transform, a block, a window with a partition
and a flush, and a sink with a transform. -/
def service : Service :=
  { name := "tally"
    sources :=
      [{ kind := .topic, id := "lines",
         transforms := [⟨.flatMap, convert "split" "string" "string"⟩] },
       { kind := .topic, id := "lines" }]
    transforms :=
      [⟨.filter, convert "is-word" "string" "bool"⟩, ⟨.map, convert "fold" "string" "word"⟩]
    window := some
      { size := .tumbling 10000 0
        assignTimestamp := convert "stamp" "word" "s64"
        partition := some
          { assignKey := convert "by-word" "word" "string"
            transforms := [⟨.map, convert "measure" "word" "u32"⟩]
            updateState := some (convert "add" "u32" "u32") }
        flush := some { uses := "sum", output := some { value := "u32" } } }
    sinks :=
      [{ kind := .topic, id := "totals", transforms := [⟨.map, convert "widen" "u32" "u64"⟩] }] }

end Tally

theorem infer_connected_tally :
    ∃ typing, (Tally.service.window = none ∨ Tally.service.partition = none) ∧
      infer [Tally.lines, Tally.totals] Tally.service = .ok typing ∧
      typing.steps.map StepTyping.position =
        ["sources[0].transforms[0]", "transforms[0]", "transforms[1]", "window.assign-timestamp",
          "window.partition.assign-key", "window.partition.transforms[0]",
          "window.partition.update-state", "window.flush", "sinks[0].transforms[0]"] ∧
      typing.steps.map StepTyping.label = Tally.service.operations.map Operation.label ∧
      typing.steps.map StepTyping.label = Tally.service.walked ∧
      (typing.steps.map StepTyping.position).Nodup ∧
      ∃ sources stage sinks,
        Connected [Tally.lines, Tally.totals] Tally.service typing sources stage sinks :=
  ⟨_, .inr rfl, rfl, rfl, infer_connected _ _ _ (.inr rfl) rfl⟩

end Inference

end FlowSpec
