import FlowSpec.Inference
import FlowSpec.Proofs.Outcome
import FlowSpec.Proofs.Service.Typing

/-!
Inference is exact. Every stage of it is told by the pair that it yields, so that a stage succeeds
exactly if it takes the pair that it is given. Composed, inference succeeds on the services that are
well typed and on no others, once the states of their steps are resolved.
-/

set_option autoImplicit false

namespace FlowSpec.Inference

open Outcome Validation

variable {topics : List Topic} {pair result : Pair} {trace : Trace}

/-! ### What computations yield -/

/-- A computation succeeds, and its trace ends with a pair. -/
def Yields (outcome : Except Error Trace) (pair : Pair) : Prop :=
  ∃ trace, outcome = .ok trace ∧ trace.pair = pair

@[simp] theorem yields_ok_iff : Yields (.ok trace) pair ↔ pair = trace.pair := by
  simp [Yields, eq_comm]

@[simp] theorem not_yields_error {error : Error} : ¬Yields (.error error) pair := by
  simp [Yields]

/-- What goes on from a computation may look at the pair that it yields. -/
theorem yields_bind_iff {outcome : Except Error Trace} {next : Trace → Except Error Trace}
    {P : Pair → Prop} (h : ∀ trace, Yields (next trace) pair ↔ P trace.pair) :
    Yields (outcome >>= next) pair ↔ ∃ middle, Yields outcome middle ∧ P middle := by
  cases outcome with
  | error error => simp [Yields, bind, Except.bind]
  | ok trace =>
    change Yields (next trace) pair ↔ _
    simp [h]

@[simp] theorem yields_andThen_iff {next : Pair → Except Error Trace} :
    Yields (trace.andThen next) pair ↔ Yields (next trace.pair) pair := by
  unfold Trace.andThen
  cases next trace.pair with
  | error error => simp [bind, Except.bind]
  | ok rest => simp [bind, Except.bind, pure, Except.pure]

theorem yields_andThen_bind_iff {next : Pair → Except Error Trace}
    {after : Trace → Except Error Trace} {P : Pair → Prop}
    (h : ∀ trace, Yields (after trace) pair ↔ P trace.pair) :
    Yields (trace.andThen next >>= after) pair ↔ ∃ middle, Yields (next trace.pair) middle ∧
      P middle := by
  rw [yields_bind_iff h]
  simp only [yields_andThen_iff]

/-! ### Steps and transforms -/

section Steps

variable (service position : String)

theorem expect_eq_ok_iff {operation : Operation} :
    expect service position operation pair = .ok () ↔ operation.step.Takes pair := by
  unfold expect
  rw [Step.inputPair_eq]
  cases hvalue : operation.step.valueInput with
  | none =>
    have hnot : ¬operation.step.Takes pair := by
      rintro ⟨⟨parameter, hparameter, -⟩, -⟩
      cases hvalue.symm.trans hparameter
    simp [hnot, failAt]
  | some parameter =>
    rw [Step.takes_iff_of_valueInput hvalue, Step.FindsKey]
    cases keyInput operation.step with
    | none =>
      by_cases hsame : sameTypeName parameter.type pair.value <;>
        simp [hsame, failAt, pure, Except.pure]
    | some key =>
      cases hfound : pair.key with
      | none => simp [failAt, bind, Except.bind]
      | some found =>
        by_cases hkey : sameTypeName key found <;> by_cases hsame : sameTypeName parameter.type
          pair.value <;> simp [hkey, hsame, failAt, bind, Except.bind, pure, Except.pure]

/-- What follows the comparison of a step is reached if the step takes the pair. -/
theorem yields_expect_bind_iff {operation : Operation} {next : Except Error Trace} :
    Yields (expect service position operation pair >>= fun _ ↦ next) result ↔
      operation.step.Takes pair ∧ Yields next result := by
  rw [← expect_eq_ok_iff service position]
  cases expect service position operation pair with
  | error error => simp [bind, Except.bind]
  | ok value => simp [bind, Except.bind]

theorem yields_chain_iff (index : Nat) {operations : List Operation} :
    Yields (chain service position index operations pair) result ↔
      Flows operations pair ∧ result = passThrough operations pair := by
  induction operations generalizing index pair with
  | nil => simp [chain, Flows, passThrough]
  | cons operation rest ih =>
    rw [chain, yields_expect_bind_iff, yields_andThen_iff, ih, Flows, and_assoc]
    rfl

theorem yields_check_iff (operation : Operation) :
    Yields (check service position operation pair) result ↔ operation.step.Takes pair ∧
      result = pair := by
  rw [check, yields_expect_bind_iff]
  exact and_congr_right fun _ ↦ yields_ok_iff

theorem yields_inferUpdate_iff {step : Step}
    (hstates : ∀ state ∈ step.states, state.resolved.isSome) :
    Yields (inferUpdate service position step pair) result ↔ step.Takes pair ∧ result = pair := by
  have hfind : step.states.find? (fun state ↦ state.resolved.isNone) = none := by
    rw [List.find?_eq_none]
    intro state hstate
    rw [Option.isNone_iff_eq_none]
    exact Option.isSome_iff_ne_none.mp (hstates state hstate)
  unfold inferUpdate
  rw [yields_expect_bind_iff, hfind]
  exact and_congr_right fun _ ↦ yields_ok_iff

theorem yields_inferAssignKey_iff {partition : Partition} :
    Yields (inferAssignKey service position partition.assignKey pair) result ↔
      (partition.assignKey.Takes pair ∧ partition.assignKey.output.isSome) ∧
        result = keyedPair partition pair := by
  unfold inferAssignKey keyedPair
  rw [yields_expect_bind_iff, and_assoc]
  cases partition.assignKey.output with
  | none => simp [failAt]
  | some output => simp [pure, Except.pure]

theorem yields_inferFlush_iff {step : Step} :
    Yields (inferFlush service position step pair) result ↔
      ∃ output, step.output = some output ∧ result = output.pair := by
  unfold inferFlush
  cases step.output with
  | none => simp [failAt]
  | some output => simp

/-! ### Windows and partitions -/

theorem yields_inferPartition_iff {partition : Partition}
    (hstates : ∀ operation ∈ partition.operations, ∀ state ∈ operation.step.states,
      state.resolved.isSome) :
    Yields (inferPartition service position partition pair) result ↔
      partition.Accepts pair ∧ result = partition.leaving pair := by
  have hyields : Yields (inferPartition service position partition pair) result ↔
      ∃ keyed, ((partition.assignKey.Takes pair ∧ partition.assignKey.output.isSome) ∧
        keyed = keyedPair partition pair) ∧
      ∃ middle, (Flows partition.transforms keyed ∧
        middle = passThrough partition.transforms keyed) ∧
        (∀ step, partition.updateState = some step → step.Takes middle) ∧ result = middle := by
    simp only [← yields_inferAssignKey_iff service (position ++ ".assign-key"),
      ← yields_chain_iff service (position ++ ".transforms") 0]
    refine yields_bind_iff fun keyed ↦ yields_andThen_bind_iff fun trace ↦ ?_
    cases hstep : partition.updateState with
    | none => simp [pure, Except.pure]
    | some step =>
      have hresolved : ∀ state ∈ step.states, state.resolved.isSome :=
        hstates ⟨.updateState, step⟩ (by simp [Partition.operations, hstep])
      simp [yields_inferUpdate_iff service _ hresolved]
  rw [hyields]
  constructor
  · rintro ⟨keyed, ⟨⟨htakes, houtput⟩, rfl⟩, middle, ⟨hflows, rfl⟩, hsteps, hresult⟩
    exact ⟨⟨htakes, houtput, hflows, hsteps⟩, hresult⟩
  · rintro ⟨h, hresult⟩
    exact ⟨_, ⟨⟨h.assignKey, h.output⟩, rfl⟩, _, ⟨h.transforms, rfl⟩, h.updateState, hresult⟩

theorem yields_inferWindow_iff {window : Window}
    (hstates : ∀ operation ∈ window.operations, ∀ state ∈ operation.step.states,
      state.resolved.isSome) :
    Yields (inferWindow service window pair) result ↔
      window.Accepts pair ∧ result = window.leaving pair := by
  have hyields : Yields (inferWindow service window pair) result ↔
      ∃ stamped, (window.assignTimestamp.Takes pair ∧ stamped = pair) ∧
      ∃ middle, (Flows window.transforms stamped ∧ middle = passThrough window.transforms stamped) ∧
      ∃ collected, ((∀ partition, window.partition = some partition → partition.Accepts middle) ∧
        collected = (window.partition.map fun partition ↦ partition.leaving middle).getD middle) ∧
      (∀ step, window.flush = some step → step.output.isSome) ∧
        result = ((window.flush.bind Step.output).map Output.pair).getD collected := by
    simp only [← yields_chain_iff service "window.transforms" 0,
      ← yields_check_iff service "window.assign-timestamp"
        ⟨.assignTimestamp, window.assignTimestamp⟩]
    refine yields_bind_iff fun stamped ↦ yields_andThen_bind_iff fun trace ↦ ?_
    have hresolved : ∀ partition, window.partition = some partition →
        ∀ operation ∈ partition.operations,
        ∀ state ∈ operation.step.states, state.resolved.isSome := by
      intro partition hpartition operation hoperation
      exact hstates operation (by simp [Window.operations, hpartition, hoperation])
    cases hflush : window.flush with
    | none =>
      cases hpartition : window.partition with
      | none => simp [pure, Except.pure, bind, Except.bind]
      | some partition =>
        simp [yields_inferPartition_iff service _ (hresolved partition hpartition)]
    | some step =>
      have hyields : ∀ trace : Trace,
          Yields (trace.andThen (inferFlush service "window.flush" step)) result ↔
          ∃ output, step.output = some output ∧ result = output.pair := by
        simp [yields_inferFlush_iff]
      cases hpartition : window.partition with
      | none =>
        refine (hyields trace).trans ?_
        cases houtput : step.output <;> simp [houtput]
      | some partition =>
        refine (yields_andThen_bind_iff (P := fun _ ↦ ∃ output, step.output = some output ∧
          result = output.pair) hyields).trans ?_
        cases houtput : step.output <;>
          simp [houtput, yields_inferPartition_iff service _ (hresolved partition hpartition)]
  rw [hyields]
  constructor
  · rintro ⟨stamped, ⟨htakes, rfl⟩, middle, ⟨hflows, rfl⟩, collected, ⟨haccepts, rfl⟩,
      hflush, hresult⟩
    exact ⟨⟨htakes, hflows, haccepts, hflush⟩, hresult⟩
  · rintro ⟨h, hresult⟩
    exact ⟨_, ⟨h.assignTimestamp, rfl⟩, _, ⟨h.transforms, rfl⟩, _, ⟨h.partition, rfl⟩,
      h.flush, hresult⟩

/-! ### Sources and sinks -/

theorem yields_inferSource_iff {source : Endpoint} (index : Nat) :
    Yields (inferSource service topics index source) result ↔ source.Brings topics result := by
  unfold inferSource Endpoint.Brings
  cases source.targetPair topics with
  | error error => simp [fail]
  | ok target =>
    cases target with
    | none => simp [fail]
    | some pair => simp [yields_chain_iff, eq_comm]

theorem exists_inferOthers_iff {first : Pair} {sources : List Endpoint} (index : Nat) :
    (∃ steps, inferOthers service topics first index sources = .ok steps) ↔
      ∀ source ∈ sources, ∃ pair, source.Brings topics pair ∧ pairsAgree [first, pair] := by
  induction sources generalizing index with
  | nil => simp [inferOthers]
  | cons source rest ih =>
    rw [List.forall_mem_cons, ← ih (index + 1), inferOthers, exists_bind_eq_ok_iff]
    simp only [← yields_inferSource_iff service index, Yields]
    constructor
    · rintro ⟨trace, htrace, steps, hsteps⟩
      split_ifs at hsteps with hagree
      · obtain ⟨others, hothers, -⟩ := bind_eq_ok_iff.mp hsteps
        exact ⟨⟨_, ⟨trace, htrace, rfl⟩, hagree⟩, others, hothers⟩
      · cases hsteps
    · rintro ⟨⟨_, ⟨trace, htrace, rfl⟩, hagree⟩, others, hothers⟩
      refine ⟨trace, htrace, trace.steps ++ others, ?_⟩
      rw [if_pos hagree, hothers]
      rfl

theorem pairsAgree_self (pair : Pair) : pairsAgree [pair, pair] := by
  cases hkey : pair.key <;> simp [pairsAgree, agreeWith, hkey]

/-- The pair that leaves the sources is that of the first, and all others agree with it. -/
theorem yields_inferSources_iff {sources : List Endpoint} :
    Yields (inferSources service topics sources) result ↔
      (∃ first, sources.head? = some first ∧ first.Brings topics result) ∧
        ∀ source ∈ sources, ∃ pair, source.Brings topics pair ∧ pairsAgree [result, pair] := by
  cases sources with
  | nil => simp [inferSources, fail]
  | cons first rest =>
    rw [List.forall_mem_cons, List.head?_cons, inferSources]
    constructor
    · rintro ⟨_, hresult, rfl⟩
      obtain ⟨trace, htrace, hresult⟩ := bind_eq_ok_iff.mp hresult
      obtain ⟨steps, hsteps, hresult⟩ := bind_eq_ok_iff.mp hresult
      obtain rfl := Except.ok.inj hresult
      have hfirst := (yields_inferSource_iff service 0).mp ⟨trace, htrace, rfl⟩
      exact ⟨⟨first, rfl, hfirst⟩, ⟨_, hfirst, pairsAgree_self _⟩,
        (exists_inferOthers_iff service 1).mp ⟨steps, hsteps⟩⟩
    · rintro ⟨⟨_, hhead, hfirst⟩, -, hrest⟩
      obtain rfl := Option.some.inj hhead
      obtain ⟨trace, htrace, rfl⟩ := (yields_inferSource_iff service 0).mpr hfirst
      obtain ⟨steps, hsteps⟩ := (exists_inferOthers_iff service 1).mpr hrest
      exact ⟨{ trace with steps := trace.steps ++ steps },
        bind_eq_ok_iff.mpr ⟨trace, htrace, bind_eq_ok_iff.mpr ⟨steps, hsteps, rfl⟩⟩, rfl⟩

theorem checkSink_eq_ok_iff {sink : Endpoint} :
    checkSink service topics position sink pair = .ok () ↔ sink.Delivers topics pair := by
  unfold checkSink Endpoint.Delivers
  cases sink.targetPair topics with
  | error error => simp [fail]
  | ok target =>
    cases target with
    | none => simp [fail]
    | some target =>
      by_cases hvalue : sameTypeName target.value pair.value
      · cases hkey : target.key <;> cases hfound : pair.key <;>
          simp [Pair.meets_iff, hvalue, hkey, hfound, fail]
      · simp [Pair.meets_iff, hvalue, fail]

theorem exists_inferSinks_iff {sinks : List Endpoint} (index : Nat) :
    (∃ steps, inferSinks service topics pair index sinks = .ok steps) ↔
      ∀ sink ∈ sinks, sink.Receives topics pair := by
  induction sinks generalizing index with
  | nil => simp [inferSinks]
  | cons sink rest ih =>
    rw [List.forall_mem_cons, ← ih (index + 1), inferSinks]
    constructor
    · rintro ⟨steps, hsteps⟩
      obtain ⟨trace, htrace, hsteps⟩ := bind_eq_ok_iff.mp hsteps
      obtain ⟨⟨⟩, hcheck, hsteps⟩ := bind_eq_ok_iff.mp hsteps
      obtain ⟨others, hothers, -⟩ := bind_eq_ok_iff.mp hsteps
      obtain ⟨hflows, hpair⟩ := (yields_chain_iff service _ 0).mp ⟨trace, htrace, rfl⟩
      rw [hpair, checkSink_eq_ok_iff] at hcheck
      exact ⟨⟨hflows, hcheck⟩, others, hothers⟩
    · rintro ⟨⟨hflows, hdelivers⟩, others, hothers⟩
      obtain ⟨trace, htrace, hpair⟩ := (yields_chain_iff service
        ("sinks[" ++ toString index ++ "]" ++ ".transforms") 0).mpr ⟨hflows, rfl⟩
      refine ⟨trace.steps ++ others, bind_eq_ok_iff.mpr ⟨trace, htrace, bind_eq_ok_iff.mpr
        ⟨(), ?_, bind_eq_ok_iff.mpr ⟨others, hothers, rfl⟩⟩⟩⟩
      rw [hpair]
      exact (checkSink_eq_ok_iff service _).mpr hdelivers

end Steps

/-! ### Services -/

theorem yields_inferStage_iff {service : Service}
    (hstates : ∀ operation ∈ service.operations, ∀ state ∈ operation.step.states,
      state.resolved.isSome) :
    Yields (inferStage service pair) result ↔
      service.StageAccepts pair ∧ result = service.leavingStage pair := by
  unfold inferStage Service.StageAccepts Service.leavingStage
  cases hwindow : service.window with
  | some window =>
    refine yields_inferWindow_iff service.name fun operation hoperation ↦ hstates operation ?_
    simp [Service.operations, hwindow, hoperation]
  | none =>
    cases hpartition : service.partition with
    | some partition =>
      refine yields_inferPartition_iff service.name "partition" fun operation hoperation ↦
        hstates operation ?_
      simp [Service.operations, hpartition, hoperation]
    | none => simp

/-- Inference succeeds exactly on services that are well typed. -/
theorem exists_infer_iff {service : Service}
    (hstates : ∀ operation ∈ service.operations, ∀ state ∈ operation.step.states,
      state.resolved.isSome) :
    (∃ typing, infer topics service = .ok typing) ↔
      ∃ entering, service.WellTyped topics entering := by
  constructor
  · rintro ⟨typing, htyping⟩
    obtain ⟨sources, hsources, htyping⟩ := bind_eq_ok_iff.mp htyping
    obtain ⟨transforms, htransforms, htyping⟩ := bind_eq_ok_iff.mp htyping
    obtain ⟨stage, hstage, htyping⟩ := bind_eq_ok_iff.mp htyping
    obtain ⟨sinks, hsinks, -⟩ := bind_eq_ok_iff.mp htyping
    obtain ⟨hfirst, hothers⟩ := (yields_inferSources_iff service.name).mp ⟨sources, hsources, rfl⟩
    obtain ⟨hflows, hpair⟩ := (yields_chain_iff service.name "transforms" 0).mp
      (yields_andThen_iff.mp ⟨transforms, htransforms, rfl⟩)
    obtain ⟨haccepts, hleaving⟩ := (yields_inferStage_iff hstates).mp
      (yields_andThen_iff.mp ⟨stage, hstage, rfl⟩)
    have hreceives := (exists_inferSinks_iff service.name 0).mp ⟨sinks, hsinks⟩
    rw [hpair] at haccepts hleaving
    rw [hleaving] at hreceives
    exact ⟨sources.pair, hfirst, hothers, hflows, haccepts, hreceives⟩
  · rintro ⟨entering, h⟩
    obtain ⟨sources, hsources, rfl⟩ :=
      (yields_inferSources_iff service.name).mpr ⟨h.first, h.sources⟩
    obtain ⟨transforms, htransforms, hpair⟩ := yields_andThen_iff.mpr
      ((yields_chain_iff service.name "transforms" 0).mpr ⟨h.transforms, rfl⟩)
    have hstaged :
        Yields (inferStage service transforms.pair) (service.leavingStage transforms.pair) :=
      (yields_inferStage_iff hstates).mpr ⟨hpair ▸ h.stage, rfl⟩
    obtain ⟨stage, hstage, hleaving⟩ := yields_andThen_iff.mpr hstaged
    rw [hpair] at hleaving
    obtain ⟨sinks, hsinks⟩ := (exists_inferSinks_iff service.name 0).mpr h.sinks
    rw [← hleaving] at hsinks
    exact ⟨_, bind_eq_ok_iff.mpr ⟨sources, hsources, bind_eq_ok_iff.mpr ⟨transforms, htransforms,
      bind_eq_ok_iff.mpr ⟨stage, hstage, bind_eq_ok_iff.mpr ⟨sinks, hsinks, rfl⟩⟩⟩⟩⟩

/-- Services are inferred one by one. -/
theorem exists_inferAll_iff {dataflow : Dataflow} : (∃ typings, inferAll dataflow = .ok typings) ↔
    ∀ service ∈ dataflow.services, ∃ typing, infer dataflow.topics service = .ok typing := by
  unfold inferAll
  dsimp only
  rw [List.filterMap_map]
  split_ifs with herrors
  · rw [List.isEmpty_iff, List.filterMap_eq_nil_iff] at herrors
    refine iff_of_true ⟨_, rfl⟩ fun service hservice ↦ ?_
    have hnone := herrors service hservice
    dsimp only [Function.comp] at hnone
    split at hnone
    · cases hnone
    · exact ⟨_, ‹_›⟩
  · refine iff_of_false (by simp) fun h ↦ herrors ?_
    rw [List.isEmpty_iff, List.filterMap_eq_nil_iff]
    intro service hservice
    obtain ⟨typing, htyping⟩ := h service hservice
    simp [htyping]

end FlowSpec.Inference
