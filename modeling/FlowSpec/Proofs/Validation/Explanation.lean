import FlowSpec.Proofs.Validation.ReportWording

/-!
Every report on a service has something to say. No node in it is empty (`Report.Filled`), and where
the checks end because the type of what comes next is not known, the reason is in the report.
Transforms stop at an operation whose input for the value is missing or is not what reaches it
(`Stops`), and this operation has a line. A window or a partition stops at its transforms or at a
flush without an output (`StageReason`).
-/

set_option autoImplicit false

namespace FlowSpec

/-! ### Reports without empty nodes -/

namespace Report

/-- Every group has a child, and every list of lines has a line. -/
inductive Filled : Report → Prop
  | line (text : String) : Filled (.line text)
  | lines {texts : List String} (hsome : texts ≠ []) : Filled (.lines texts)
  | group (heading : String) {children : List Report} (hsome : children ≠ [])
      (hall : ∀ child ∈ children, Filled child) : Filled (.group heading children)
  | service (name : String) {children : List Report} (hsome : children ≠ [])
      (hall : ∀ child ∈ children, Filled child) : Filled (.service name children)

variable {heading text : String} {texts : List String} {report : Report} {children : List Report}

theorem Filled.only (heading : String) (h : report.Filled) :
    (Report.group heading [report]).Filled :=
  .group heading (List.cons_ne_nil _ _) (List.forall_mem_singleton.mpr h)

theorem linesUnlessEmpty_of_mem (h : text ∈ texts) :
    linesUnlessEmpty texts = some (.lines texts) := by
  unfold linesUnlessEmpty
  rw [if_neg (mt List.isEmpty_iff.mp (List.ne_nil_of_mem h))]

theorem filled_linesUnlessEmpty : ∀ report ∈ linesUnlessEmpty texts, report.Filled := by
  intro report hreport
  unfold linesUnlessEmpty at hreport
  split at hreport <;> cases hreport
  next hsome => exact .lines (mt List.isEmpty_iff.mpr hsome)

theorem filled_groupUnlessEmpty (h : ∀ child ∈ children, child.Filled) :
    ∀ report ∈ groupUnlessEmpty heading children, report.Filled := by
  intro report hreport
  unfold groupUnlessEmpty at hreport
  split at hreport <;> cases hreport
  next hsome => exact .group heading (mt List.isEmpty_iff.mpr hsome) h

end Report

open Report (Filled)

theorem filled_lineIf {condition : Bool} {text : String} :
    ∀ report ∈ lineIf condition text, report.Filled := by
  unfold lineIf
  split
  · exact List.forall_mem_singleton.mpr (.line text)
  · exact List.forall_mem_nil _

namespace Validation

variable {around : Surroundings} {scope : Scope} {endpoint : Endpoint} {pair : Pair}
  {service : Service}

theorem filled_transformsBlock {report : Report} (h : report.Filled) :
    (transformsBlock [report]).Filled := h.only _

theorem filled_checkStateRow {columns : List Column} :
    ∀ report ∈ checkStateRow columns, report.Filled :=
  Report.filled_groupUnlessEmpty (forall_mem_checkItems
    (fun _ _ _ ↦ List.forall_mem_append.mpr ⟨filled_lineIf, filled_lineIf⟩) [])

theorem filled_stateProblems (state : PoolState) :
    ∀ report ∈ State.problems state, report.Filled := by
  have hlines {lines : List String} : ∀ report ∈ (Report.linesUnlessEmpty lines).toList,
      report.Filled :=
    Report.forall_mem_toList Report.filled_linesUnlessEmpty
  unfold State.problems
  split
  · unfold State.typedProblems
    split
    · exact List.forall_mem_singleton.mpr (.line _)
    · exact Report.forall_mem_toList filled_checkStateRow
    · exact List.forall_mem_nil _
  · exact List.forall_mem_nil _
  · exact hlines
  · exact hlines

theorem filled_poolStateProblems (state : PoolState) :
    ∀ report ∈ poolStateProblems scope state, report.Filled := by
  have hgroups (state : PoolState) : ∀ report ∈ (State.problems state).map stateGroup,
      report.Filled :=
    List.forall_mem_map.mpr fun report hreport ↦ (filled_stateProblems state report hreport).only _
  unfold poolStateProblems
  split
  · split
    · exact List.forall_mem_singleton.mpr ((Filled.line _).only _)
    · exact hgroups _
  · exact hgroups _

theorem filled_disagreement {what lower : String} {pairs : List (String × Pair)} :
    ∀ report ∈ disagreement what lower pairs, report.Filled := by
  unfold disagreement
  split
  · exact List.forall_mem_nil _
  · exact List.forall_mem_singleton.mpr ((Filled.line _).only _)

theorem filled_invalidOperators {lines : List String} :
    ∀ report ∈ (if lines.isEmpty then [] else [invalidOperators lines]), report.Filled := by
  split
  · exact List.forall_mem_nil _
  next hsome =>
    refine List.forall_mem_singleton.mpr
      (.group _ ?_ (List.forall_mem_map.mpr fun line _ ↦ .line line))
    exact mt List.map_eq_nil_iff.mp (mt List.isEmpty_iff.mpr hsome)

theorem filled_of_sourcePair {report : Report} (h : sourcePair around endpoint = .error report) :
    report.Filled := by
  unfold sourcePair at h
  split at h
  · obtain ⟨text, -, rfl⟩ := Outcome.mapError_eq_error_iff.mp h
    exact filled_transformsBlock (.line text)
  · split at h <;> cases h <;> exact .line _

theorem filled_of_sinkPair {report : Report} (h : sinkPair around endpoint = .error report) :
    report.Filled := by
  unfold sinkPair at h
  split at h
  · split at h <;> cases h
    exact filled_transformsBlock (.line _)
  · obtain ⟨error, -, rfl⟩ := Outcome.mapError_eq_error_iff.mp h
    exact .line _

theorem filled_of_servicePair {report : Report} (h : servicePair around service = .error report) :
    report.Filled := by
  unfold servicePair at h
  split at h
  · cases h
    exact .line _
  · obtain ⟨error, -, rfl⟩ := Outcome.mapError_eq_error_iff.mp h
    exact .line _

theorem filled_filterMap_group {items : List Endpoint} {heading : Endpoint → String}
    {problems : Endpoint → List Report} (h : ∀ item, ∀ report ∈ problems item, report.Filled) :
    ∀ report ∈ items.filterMap fun item ↦ Report.groupUnlessEmpty (heading item) (problems item),
      report.Filled :=
  List.forall_mem_filterMap.mpr fun item _ ↦ Report.filled_groupUnlessEmpty (h item)

theorem filled_sourcesProblems (sources : List Endpoint) :
    ∀ report ∈ sourcesProblems around sources, report.Filled := by
  refine List.forall_mem_append.mpr ⟨filled_filterMap_group fun source ↦ ?_, filled_disagreement⟩
  simp only [sourceProblems, List.forall_mem_append, and_assoc]
  refine ⟨?_, ?_, filled_lineIf⟩
  · split
    next report hpair => exact List.forall_mem_singleton.mpr (filled_of_sourcePair hpair)
    next => exact List.forall_mem_nil _
  · unfold sourceTransforms
    split
    · exact filled_invalidOperators
    · exact List.forall_mem_nil _

/-- Lines of one check in a block of transforms. -/
theorem filled_blockUnlessEmpty {lines : List String} : ∀ report ∈
    ((Report.linesUnlessEmpty lines).map fun lines ↦ transformsBlock [lines]).toList,
      report.Filled := by
  intro report hreport
  obtain ⟨inner, hinner, rfl⟩ := Option.map_eq_some_iff.mp (Option.mem_toList.mp hreport)
  exact filled_transformsBlock (Report.filled_linesUnlessEmpty inner hinner)

theorem filled_sinksProblems (sinks : List Endpoint) :
    ∀ report ∈ sinksProblems around sinks pair, report.Filled := by
  refine List.forall_mem_append.mpr ⟨filled_filterMap_group fun sink ↦ ?_, filled_disagreement⟩
  simp only [sinkProblems, List.forall_mem_append, and_assoc]
  refine ⟨?_, ?_, filled_blockUnlessEmpty⟩
  · split
    next report hpair => exact List.forall_mem_singleton.mpr (filled_of_sinkPair hpair)
    next => exact List.forall_mem_nil _
    next => exact List.forall_mem_nil _
  · split
    · exact List.forall_mem_nil _
    · exact filled_invalidOperators

theorem filled_stageProblems : ∀ report ∈ stageProblems scope service pair, report.Filled :=
  Report.forall_mem_toList Report.filled_linesUnlessEmpty

theorem filled_transformReports :
    ∀ report ∈ transformReports around service pair, report.Filled := by
  simp only [transformReports, List.forall_mem_append, and_assoc]
  exact ⟨filled_sourcesProblems _,
    List.forall_mem_flatMap.mpr fun state _ ↦ filled_poolStateProblems state,
    filled_blockUnlessEmpty⟩

/-! ### Where transforms stop -/

variable {operations before rest : List Operation} {operation : Operation} {reaching : Pair}
  {line provider : String}

/-- The pair passes the operations before this one, whose input for the value is missing or is not
what reaches it. -/
structure Stops (operations : List Operation) (pair : Pair) (before : List Operation)
    (operation : Operation) (reaching : Pair) : Prop where
  place : ∃ rest, operations = before ++ operation :: rest
  reaches : transformsOutput before pair = some reaching
  refuses : ∀ value, operation.step.valueInput = some value →
    sameTypeName value.type reaching.value = false

/-- The line is on the inputs of the operation at which the transforms stop, or on the type that
reaches it. -/
def TellsStop (operations : List Operation) (pair : Pair) (provider line : String) : Prop :=
  ∃ before operation reaching, Stops operations pair before operation reaching ∧
    line ∈ inputCount 1 operation.operator.name operation.step ++
      valueProblems operation reaching (lastProvider before provider)

theorem transformsOutput_append (before rest : List Operation) (pair : Pair) :
    transformsOutput (before ++ rest) pair =
      (transformsOutput before pair).bind (transformsOutput rest) := by
  induction before generalizing pair with
  | nil => rfl
  | cons operation before ih =>
    rw [List.cons_append, transformsOutput, transformsOutput]
    split
    · split
      · exact ih _
      · rfl
    · rfl

theorem transformsOutput_of_refuses
    (h : ∀ value, operation.step.valueInput = some value →
      sameTypeName value.type pair.value = false) :
    transformsOutput (operation :: rest) pair = none := by
  rw [transformsOutput]
  split
  next value hvalue => rw [h value hvalue, if_neg Bool.false_ne_true]
  next => rfl

theorem exists_stops (h : transformsOutput operations pair = none) :
    ∃ before operation reaching, Stops operations pair before operation reaching := by
  induction operations generalizing pair with
  | nil => cases h
  | cons first rest ih =>
    by_cases htakes : ∃ value, first.step.valueInput = some value ∧
      sameTypeName value.type pair.value = true
    · obtain ⟨value, hvalue, hsame⟩ := htakes
      have hpasses (others : List Operation) :
          transformsOutput (first :: others) pair =
            transformsOutput others (first.passOn pair) := by
        rw [transformsOutput, hvalue]
        exact if_pos hsame
      rw [hpasses] at h
      obtain ⟨before, operation, reaching, ⟨others, rfl⟩, hreaches, hrefuses⟩ := ih h
      exact ⟨first :: before, operation, reaching, ⟨others, rfl⟩,
        (hpasses before).trans hreaches, hrefuses⟩
    · refine ⟨[], first, pair, ⟨rest, rfl⟩, rfl, fun value hvalue ↦ ?_⟩
      exact Bool.eq_false_iff.mpr fun hsame ↦ htakes ⟨value, hvalue, hsame⟩

theorem TellsStop.transformsOutput_eq_none (h : TellsStop operations pair provider line) :
    transformsOutput operations pair = none := by
  obtain ⟨before, operation, reaching, ⟨⟨rest, rfl⟩, hreaches, hrefuses⟩, -⟩ := h
  rw [transformsOutput_append, hreaches, Option.bind_some, transformsOutput_of_refuses hrefuses]

theorem lastProvider_cons (operation : Operation) (before : List Operation) (provider : String) :
    lastProvider (operation :: before) provider =
      lastProvider before (if operation.step.output.isSome then functionName operation
        else provider) := by
  unfold lastProvider
  rw [List.reverse_cons, List.find?_append]
  cases before.reverse.find? fun operation ↦ operation.step.output.isSome with
  | some other => rfl
  | none => cases hsome : operation.step.output.isSome <;> simp [hsome]

/-- What is said of operations behind others is said of the pair and the provider that the others
leave. -/
theorem transformProblems_append (before rest : List Operation) (pair : Pair) (provider : String) :
    transformProblems scope (before ++ rest) pair provider =
      transformProblems scope before pair provider ++
      transformProblems scope rest (passThrough before pair) (lastProvider before provider) := by
  induction before generalizing pair provider with
  | nil => rfl
  | cons operation before ih =>
    rw [List.cons_append, transformProblems, transformProblems, ih, lastProvider_cons,
      List.append_assoc _ _ (transformProblems scope rest _ _)]
    rfl

/-- An operation that does not take what reaches it has a line. -/
theorem exists_mem_of_refuses (provider : String)
    (h : ∀ value, operation.step.valueInput = some value →
      sameTypeName value.type reaching.value = false) :
    ∃ line, line ∈ inputCount 1 operation.operator.name operation.step ++
      valueProblems operation reaching provider := by
  refine List.exists_mem_of_ne_nil _ fun hnil ↦ ?_
  obtain ⟨hcount, hvalues⟩ := List.append_eq_nil_iff.mp hnil
  obtain ⟨value, hvalue⟩ := exists_valueInput_of_inputCount Nat.one_pos hcount
  have hsame := (valueProblems_eq_nil_iff hvalue).mp hvalues
  rw [h value hvalue] at hsame
  exact Bool.false_ne_true hsame

theorem inputCount_subset_stepProblems {operator : Operator} {step : Step}
    (h : operator.isTransform) :
    inputCount 1 operator.name step ⊆ stepProblems scope operator step := by
  refine List.subset_append_of_subset_left _ ?_
  cases operator with
  | map | flatMap | filter | filterMap =>
    simp only [signature, List.append_assoc]
    exact List.subset_append_left ..
  | _ => cases h

/-- Where the type of what leaves transforms is not known, a line says at which operation they
stop. -/
theorem exists_tellsStop (htransforms : ∀ operation ∈ operations, operation.operator.isTransform)
    (h : transformsOutput operations pair = none) :
    ∃ line ∈ transformProblems scope operations pair provider,
      TellsStop operations pair provider line := by
  obtain ⟨before, operation, reaching, hstops⟩ := exists_stops h
  obtain ⟨line, hline⟩ := exists_mem_of_refuses (lastProvider before provider) hstops.refuses
  refine ⟨line, ?_, before, operation, reaching, hstops, hline⟩
  obtain ⟨rest, rfl⟩ := hstops.place
  have htransform := htransforms operation (by simp)
  rw [transformProblems_append, ← eq_passThrough_of_transformsOutput hstops.reaches,
    transformProblems]
  simp only [List.mem_append] at hline ⊢
  refine .inr (.inl ?_)
  rcases hline with hcount | hvalue
  · exact .inl (.inl (inputCount_subset_stepProblems htransform hcount))
  · exact .inr hvalue

/-! ### Why a stage puts out nothing -/

/-- The line says why the type of what leaves the window or the partition is not known. -/
inductive StageReason (service : Service) (pair : Pair) : String → Prop
  | windowTransforms {window : Window} {line : String} (hwindow : service.window = some window)
      (hstop : TellsStop window.transforms pair "transforms block" line) :
      StageReason service pair ("Window " ++ ("transforms block is invalid: " ++ line))
  | windowPartition {window : Window} {partition : Partition} {middle : Pair} {line : String}
      (hwindow : service.window = some window)
      (hmiddle : transformsOutput window.transforms pair = some middle)
      (hpartition : window.partition = some partition)
      (hstop : TellsStop partition.transforms (keyedPair partition middle) "window" line) :
      StageReason service pair ("Window " ++
        ("partition is invalid: " ++ ("transforms block is invalid: " ++ line)))
  | windowFlush {window : Window} {step : Step} {middle : Pair}
      (hwindow : service.window = some window)
      (hmiddle : transformsOutput window.transforms pair = some middle)
      (hflush : window.flush = some step) (hnone : step.output = none) :
      StageReason service pair ("Window " ++ ("flush function is invalid: " ++
        (functionLabel "window-aggregate" step ++ " requires an output type")))
  | partition {partition : Partition} {line : String} (hwindow : service.window = none)
      (hpartition : service.partition = some partition)
      (hstop : TellsStop partition.transforms (keyedPair partition pair) "transforms block" line) :
      StageReason service pair ("Partition " ++ ("transforms block is invalid: " ++ line))

theorem StageReason.stageOutput_eq_none (h : StageReason service pair line) :
    stageOutput service pair = none := by
  refine Option.eq_none_iff_forall_ne_some.mpr fun output houtput ↦ ?_
  unfold stageOutput at houtput
  cases h with
  | windowTransforms hwindow hstop =>
    rw [hwindow] at houtput
    obtain ⟨middle, -, hmiddle, -⟩ := exists_of_windowOutput houtput
    cases hmiddle.symm.trans hstop.transformsOutput_eq_none
  | windowPartition hwindow hmiddle hpartition hstop =>
    rw [hwindow] at houtput
    obtain ⟨found, collected, hfound, hsome, -⟩ := exists_of_windowOutput houtput
    obtain rfl := Option.some.inj (hmiddle.symm.trans hfound)
    cases (hsome _ hpartition).symm.trans hstop.transformsOutput_eq_none
  | windowFlush hwindow hmiddle hflush hnone =>
    rw [hwindow] at houtput
    obtain ⟨found, collected, -, -, -, hput, -⟩ := exists_of_windowOutput houtput
    have hput := hput _ hflush
    rw [hnone] at hput
    cases hput
  | partition hwindow hpartition hstop =>
    rw [hwindow, hpartition] at houtput
    cases houtput.symm.trans hstop.transformsOutput_eq_none

theorem mem_inContext {context spaced text : String} {texts : List String}
    (hspaced : context ++ " " = spaced) (h : text ∈ texts) :
    spaced ++ text ∈ Report.inContext context texts :=
  hspaced ▸ List.mem_map_of_mem h

theorem cases_of_windowOutput {window : Window} (h : windowOutput window pair = none) :
    transformsOutput window.transforms pair = none ∨
      ∃ middle, transformsOutput window.transforms pair = some middle ∧
        ((∃ partition, window.partition = some partition ∧
          partitionOutput partition middle = none) ∨
          ∃ step, window.flush = some step ∧ step.output = none) := by
  cases hmiddle : transformsOutput window.transforms pair with
  | none => exact .inl rfl
  | some middle =>
    refine .inr ⟨middle, rfl, ?_⟩
    rw [windowOutput, hmiddle, Option.bind_eq_bind, Option.bind_some] at h
    cases hpartition : window.partition with
    | none =>
      cases hflush : window.flush with
      | none => simp [hpartition, hflush] at h
      | some step => exact .inr ⟨step, rfl, by simpa [hpartition, hflush] using h⟩
    | some partition =>
      cases hcollected : partitionOutput partition middle with
      | none => exact .inl ⟨partition, rfl, hcollected⟩
      | some collected =>
        cases hflush : window.flush with
        | none => simp [hpartition, hcollected, hflush] at h
        | some step => exact .inr ⟨step, rfl, by simpa [hpartition, hcollected, hflush] using h⟩

theorem exists_mem_partitionProblems (scope : Scope) {partition : Partition} (provider : String)
    (htransforms : ∀ operation ∈ partition.transforms, operation.operator.isTransform)
    (h : partitionOutput partition pair = none) :
    ∃ line, TellsStop partition.transforms (keyedPair partition pair) provider line ∧
      "transforms block is invalid: " ++ line ∈
        partitionProblems scope partition pair provider := by
  obtain ⟨line, hline, hstop⟩ := exists_tellsStop htransforms h
  refine ⟨line, hstop, ?_⟩
  unfold partitionProblems
  exact List.mem_append_left _ (List.mem_append_right _ (mem_inContext (by decide) hline))

theorem exists_mem_windowProblems (scope : Scope) {window : Window}
    (hwindow : service.window = some window)
    (htransforms : ∀ operation ∈ window.transforms, operation.operator.isTransform)
    (hpartitions : ∀ partition, window.partition = some partition →
      ∀ operation ∈ partition.transforms, operation.operator.isTransform)
    (h : windowOutput window pair = none) :
    ∃ line ∈ windowProblems scope window pair "transforms block",
      StageReason service pair ("Window " ++ line) := by
  unfold windowProblems
  rcases cases_of_windowOutput h with hnone |
    ⟨middle, hmiddle, ⟨partition, hpartition, hnone⟩ | ⟨step, hflush, hnone⟩⟩
  · obtain ⟨line, hline, hstop⟩ := exists_tellsStop htransforms hnone
    refine ⟨_, ?_, .windowTransforms hwindow hstop⟩
    exact List.mem_append_left _ (List.mem_append_right _ (mem_inContext (by decide) hline))
  · obtain ⟨line, hstop, hline⟩ :=
      exists_mem_partitionProblems scope "window" (hpartitions partition hpartition) hnone
    refine ⟨_, List.mem_append_right _ ?_, .windowPartition hwindow hmiddle hpartition hstop⟩
    rw [hmiddle, hpartition]
    exact List.mem_append_left _ (mem_inContext (by decide) hline)
  · refine ⟨_, List.mem_append_right _ ?_, .windowFlush hwindow hmiddle hflush hnone⟩
    rw [hmiddle, hflush]
    refine List.mem_append_right _ (mem_inContext (by decide) ?_)
    simp [stepProblems, signature, outputPresent, hnone]

/-- Where the type of what leaves the window or the partition is not known, a line says why. -/
theorem exists_stageReason (scope : Scope) (h : service.OnlyTransforms)
    (hnone : stageOutput service pair = none) :
    ∃ lines, stageProblems scope service pair = [.lines lines] ∧ ∃ line ∈ lines,
      StageReason service pair line := by
  have hlines {lines : List String} {line : String} (hline : line ∈ lines) :
      (Report.linesUnlessEmpty lines).toList = [.lines lines] := by
    rw [Report.linesUnlessEmpty_of_mem hline, Option.toList_some]
  unfold stageOutput at hnone
  unfold stageProblems
  split at hnone
  next window hwindow =>
    obtain ⟨line, hline, hreason⟩ :=
      exists_mem_windowProblems scope hwindow (h.window window hwindow)
        (h.windowPartition window hwindow) hnone
    have hmem : "Window " ++ line ∈
        Report.inContext "Window" (windowProblems scope window pair "transforms block") :=
      mem_inContext (by decide) hline
    exact ⟨_, hlines hmem, _, hmem, hreason⟩
  next partition hwindow hpartition =>
    obtain ⟨line, hstop, hline⟩ := exists_mem_partitionProblems scope "transforms block"
      (h.partition partition hpartition) hnone
    have hmem : "Partition " ++ ("transforms block is invalid: " ++ line) ∈
        Report.inContext "Partition" (partitionProblems scope partition pair "transforms block") :=
      mem_inContext (by decide) hline
    exact ⟨_, hlines hmem, _, hmem, .partition hwindow hpartition hstop⟩
  next => cases hnone

/-! ### Reports on services -/

section Report

variable {report : Report} {entering leaving : Pair}

theorem serviceProblems_of_stop (hpair : servicePair around service = .ok entering)
    (hnone : transformsOutput service.transforms entering = none) : serviceProblems around service =
      some (.service service.name (lineIf service.name.isEmpty "Service name cannot be empty" ++
        (transformReports around service entering ++
          [transformsBlock [.line "could not get output type from invalid transforms"]]))) := by
  simp only [serviceProblems, hpair, hnone]

theorem serviceProblems_of_stageStop (hpair : servicePair around service = .ok entering)
    (hleaving : transformsOutput service.transforms entering = some leaving)
    (hnone : stageOutput service leaving = none) : serviceProblems around service =
      some (.service service.name (lineIf service.name.isEmpty "Service name cannot be empty" ++
        (transformReports around service entering ++
          stageProblems around.scope service leaving))) := by
  simp only [serviceProblems, hpair, hleaving, hnone]

theorem filled_serviceProblems (honly : service.OnlyTransforms)
    (h : serviceProblems around service = some report) :
    ∃ children, report = .service service.name children ∧ children ≠ [] ∧ report.Filled := by
  have hreport {children : List Report} (hsome : children ≠
        []) (hall : ∀ child ∈ children, child.Filled) :
      ∃ others, Report.service service.name children = .service service.name others ∧ others ≠ [] ∧
        (Report.service service.name children).Filled :=
    ⟨children, rfl, hsome, .service _ hsome hall⟩
  have hname : ∀ report ∈ lineIf service.name.isEmpty "Service name cannot be empty",
      report.Filled := filled_lineIf
  cases hpair : servicePair around service with
  | error error =>
    simp only [serviceProblems, hpair, Option.some.injEq] at h
    subst h
    refine hreport (by simp) (List.forall_mem_append.mpr ⟨hname, List.forall_mem_singleton.mpr ?_⟩)
    exact filled_of_servicePair hpair
  | ok entering =>
    have hbefore : ∀ report ∈ transformReports around service entering, report.Filled :=
      filled_transformReports
    cases hleaving : transformsOutput service.transforms entering with
    | none =>
      rw [serviceProblems_of_stop hpair hleaving, Option.some.injEq] at h
      subst h
      refine hreport (by simp) (List.forall_mem_append.mpr ⟨hname,
          List.forall_mem_append.mpr ⟨hbefore, ?_⟩⟩)
      exact List.forall_mem_singleton.mpr (filled_transformsBlock (.line _))
    | some leaving =>
      have hstage : ∀ report ∈ stageProblems around.scope service leaving, report.Filled :=
        filled_stageProblems
      cases houtput : stageOutput service leaving with
      | none =>
        -- the only end that adds no report of its own, so the stage must have one
        obtain ⟨lines, hlines, -⟩ := exists_stageReason around.scope honly houtput
        rw [serviceProblems_of_stageStop hpair hleaving houtput, Option.some.injEq] at h
        subst h
        refine hreport (by simp [hlines]) (List.forall_mem_append.mpr ⟨hname, ?_⟩)
        exact List.forall_mem_append.mpr ⟨hbefore, hstage⟩
      | some output =>
        simp only [serviceProblems, hpair, hleaving, houtput] at h
        split at h <;> cases h
        next hsome =>
          refine hreport (mt List.isEmpty_iff.mpr hsome) ?_
          simp only [List.forall_mem_append, and_assoc]
          exact ⟨hname, hbefore, hstage, filled_sinksProblems service.sinks⟩

/-- The report on a service has a child, and no node in it is empty. The type of what leaves the
transforms is unknown exactly if the report tells at which operation they stop, and behind them the
type of what leaves the window or the partition is unknown exactly if the report tells why. -/
theorem serviceProblems_explained (around : Surroundings) (service : Service)
    (h : service.OnlyTransforms) :
    (∀ report, serviceProblems around service = some report →
      ∃ children, report = .service service.name children ∧ children ≠ [] ∧ report.Filled) ∧
    ∀ entering, servicePair around service = .ok entering →
      (transformsOutput service.transforms entering = none ↔
        ∃ children lines line,
          serviceProblems around service = some (.service service.name children) ∧
          transformsBlock [.lines lines] ∈ children ∧ line ∈ lines ∧
            TellsStop service.transforms entering "sources" line) ∧
      ∀ leaving, transformsOutput service.transforms entering = some leaving →
        (stageOutput service leaving = none ↔
          ∃ children lines line,
            serviceProblems around service = some (.service service.name children) ∧
            .lines lines ∈ children ∧ line ∈ lines ∧ StageReason service leaving line) := by
  refine ⟨fun report ↦ filled_serviceProblems h,
    fun entering hpair ↦ ⟨⟨fun hnone ↦ ?_, ?_⟩, fun leaving hleaving ↦
    ⟨fun hnone ↦ ?_, ?_⟩⟩⟩
  · obtain ⟨line, hline, hstop⟩ := exists_tellsStop h.transforms hnone
    refine ⟨_, _, line, serviceProblems_of_stop hpair hnone, ?_, hline, hstop⟩
    refine List.mem_append_right _ (List.mem_append_left _ (List.mem_append_right _ ?_))
    rw [Report.linesUnlessEmpty_of_mem hline]
    exact List.mem_singleton_self _
  · rintro ⟨_, _, _, -, -, -, hstop⟩
    exact hstop.transformsOutput_eq_none
  · obtain ⟨lines, hlines, line, hline, hreason⟩ := exists_stageReason around.scope h hnone
    refine ⟨_, lines, line, serviceProblems_of_stageStop hpair hleaving hnone, ?_, hline, hreason⟩
    rw [hlines]
    exact List.mem_append_right _ (List.mem_append_right _ (List.mem_singleton_self _))
  · rintro ⟨_, _, _, -, -, -, hreason⟩
    exact hreason.stageOutput_eq_none

/-- A service that reads texts and sums them up in a window, with a flush that puts out nothing. -/
def silentFlush : Service where
  name := "count"
  sources := [{ kind := .topic, id := "texts" }]
  window := some
    { size := .tumbling 1000 0, assignTimestamp := { uses := "stamp" },
      flush := some { uses := "sum" } }

def aroundTexts : Surroundings where
  scope := { types := [] }
  topics := [{ id := "texts", name := "texts", value := { type := "string", converter := "raw" } }]
  schedules := []

theorem serviceProblems_explained_flush : silentFlush.OnlyTransforms ∧
    servicePair aroundTexts silentFlush = .ok { value := "string" } ∧
    stageOutput silentFlush { value := "string" } = none ∧
    ∃ children lines line,
      serviceProblems aroundTexts silentFlush = some (.service "count" children) ∧
      .lines lines ∈ children ∧ line ∈ lines ∧
      StageReason silentFlush { value := "string" } line := by
  have honly : silentFlush.OnlyTransforms := by
    constructor <;> simp [silentFlush]
  refine ⟨honly, rfl, rfl, ?_⟩
  exact (((serviceProblems_explained aroundTexts silentFlush honly).2 _ rfl).2 _ rfl).mp rfl

end Report

end Validation

end FlowSpec
