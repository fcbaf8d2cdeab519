import FlowSpec.Proofs.Report.Indentation
import FlowSpec.Proofs.Scope.Settling
import FlowSpec.Proofs.Scope.Validity
import FlowSpec.Proofs.Validation.Wording

/-!
The wording of reports on types, states and services. Where their names are single lines, every text
in the report on a type or on a state is one line, and every text in the report on a service is one
line or the line on a key that one of its operations assigns (`says_serviceProblems`).
-/

set_option autoImplicit false

namespace FlowSpec

open Text (OneLine oneLine_append_iff)
open Outcome
open Report (Says)

/-! ### Types, states and services whose names are single lines -/

structure NamedType.Plain (type : NamedType) : Prop where
  name : OneLine type.name
  references : ∀ name ∈ type.shape.references, OneLine name
  members : ∀ name ∈ type.shape.memberNames, OneLine name

def Scope.Plain (scope : Scope) : Prop := ∀ type ∈ scope.types, type.Plain

structure PoolState.Plain (state : PoolState) : Prop where
  name : OneLine state.name
  owned : ∀ typed, state.source = .owned (some typed) → typed.namedType.Plain
  target : ∀ target typed, state.source = .reference (some target) typed → OneLine target.service ∧
    OneLine target.state

structure Service.Plain (service : Service) : Prop where
  name : OneLine service.name
  sources : ∀ source ∈ service.sources, OneLine source.id
  sinks : ∀ sink ∈ service.sinks, OneLine sink.id
  steps : ∀ operation ∈ service.operations, operation.step.Plain
  states : ∀ state ∈ service.states, state.Plain

/-! ### Types -/

theorem says_lineIf {P : String → Prop} {condition : Bool} {text : String} (h : P text) :
    ∀ report ∈ lineIf condition text, report.Says P := by
  unfold lineIf
  split
  · exact List.forall_mem_singleton.mpr (Report.says_line_iff.mpr h)
  · exact List.forall_mem_nil _

theorem forall_mem_checkItems {α : Type} {name : α → String} {check : α → Bool → List Report}
    {P : Report → Prop} {items : List α}
    (h : ∀ item ∈ items, ∀ isRepeated, ∀ report ∈ check item isRepeated, P report)
    (seen : List String) : ∀ report ∈ checkItems name check items seen, P report := by
  induction items generalizing seen with
  | nil => exact List.forall_mem_nil _
  | cons item rest ih =>
    obtain ⟨hitem, hrest⟩ := List.forall_mem_cons.mp h
    exact List.forall_mem_append.mpr ⟨hitem _, ih hrest _⟩

theorem oneLine_keyTypeLine {name : String} (h : OneLine name) :
    OneLine ("Referenced key type `" ++ name ++ "` not found in config or imported types") := by
  exact .naming (.fixed rfl) h rfl

theorem says_checkColumns {columns : List Column}
    (h : ∀ name ∈ columns.map Column.name, OneLine name) :
    ∀ report ∈ checkColumns columns, report.Says OneLine := by
  refine forall_mem_checkItems (fun column hcolumn isRepeated ↦ ?_) []
  refine List.forall_mem_append.mpr ⟨says_lineIf (.fixed rfl), says_lineIf ?_⟩
  exact .naming (.fixed rfl) (h _ (List.mem_map_of_mem hcolumn)) rfl

theorem says_checkStateRow {columns : List Column}
    (h : ∀ name ∈ columns.map Column.name, OneLine name) :
    ∀ report ∈ checkStateRow columns, report.Says OneLine :=
  Report.says_groupUnlessEmpty (.fixed rfl) (says_checkColumns h)

namespace Scope

variable {scope : Scope} {name : String} {shape : Shape} {type : NamedType}

theorem says_unknownType (h : OneLine name) :
    ∀ report ∈ scope.unknownType name, report.Says OneLine :=
  says_lineIf (Validation.oneLine_unknownTypeLine h)

theorem says_checkVariants {variants : List Variant}
    (hnames : ∀ name ∈ variants.map Variant.name, OneLine name)
    (hpayloads : ∀ name ∈ variants.filterMap Variant.payload, OneLine name) :
    ∀ report ∈ scope.checkVariants variants, report.Says OneLine := by
  refine forall_mem_checkItems (fun variant hvariant isRepeated ↦ ?_) []
  simp only [List.forall_mem_append, and_assoc]
  refine ⟨says_lineIf (.fixed rfl), says_lineIf ?_, ?_⟩
  · exact .naming (.fixed rfl) (hnames _ (List.mem_map_of_mem hvariant)) rfl
  · split
    next => exact List.forall_mem_nil _
    next => exact List.forall_mem_singleton.mpr (Report.says_line_iff.mpr (.fixed rfl))
    next payload _ hpayload =>
      exact says_unknownType
        (hpayloads payload (List.mem_filterMap.mpr ⟨variant, hvariant, hpayload⟩))

theorem says_checkFields {fields : List Field}
    (hnames : ∀ name ∈ fields.map Field.name, OneLine name)
    (htypes : ∀ name ∈ fields.map Field.type, OneLine name) :
    ∀ report ∈ scope.checkFields fields, report.Says OneLine := by
  refine forall_mem_checkItems (fun field hfield isRepeated ↦ ?_) []
  simp only [List.forall_mem_append, and_assoc]
  refine ⟨says_lineIf (.fixed rfl), says_unknownType (htypes _ (List.mem_map_of_mem hfield)),
    says_lineIf ?_⟩
  exact .naming (.fixed rfl) (hnames _ (List.mem_map_of_mem hfield)) rfl

theorem says_checkKeyedState {state : KeyedState}
    (hreferences : ∀ name ∈ (Shape.keyedState state).references, OneLine name)
    (hmembers : ∀ name ∈ (Shape.keyedState state).memberNames, OneLine name) :
    ∀ report ∈ scope.checkKeyedState state, report.Says OneLine := by
  obtain ⟨key, value⟩ := state
  have hkey : OneLine key := hreferences key (by cases value <;> simp [Shape.references])
  refine List.forall_mem_append.mpr ⟨says_lineIf (oneLine_keyTypeLine hkey), ?_⟩
  cases value with
  | row columns => exact Report.forall_mem_toList (says_checkStateRow hmembers)
  | unresolved name => exact says_unknownType (hreferences name (by simp [Shape.references]))
  | u32 => exact List.forall_mem_nil _

theorem says_checkShape (hreferences : ∀ name ∈ shape.references, OneLine name)
    (hmembers : ∀ name ∈ shape.memberNames, OneLine name) :
    ∀ report ∈ scope.checkShape shape, report.Says OneLine := by
  have hhead {reports : List Report} (h : ∀ report ∈ reports, report.Says OneLine) :
      ∀ report ∈ reports.head?, report.Says OneLine :=
    fun report hreport ↦ h report (List.mem_of_mem_head? hreport)
  cases shape with
  | enumeration variants =>
    exact Report.says_groupUnlessEmpty (.fixed rfl) (says_checkVariants hmembers hreferences)
  | keyedState state =>
    exact Report.says_groupUnlessEmpty (.fixed rfl) (says_checkKeyedState hreferences hmembers)
  | object fields =>
    exact Report.says_groupUnlessEmpty (.fixed rfl) (says_checkFields hmembers hreferences)
  | row columns => exact Report.says_groupUnlessEmpty (.fixed rfl) (says_checkColumns hmembers)
  | list item => exact hhead (says_unknownType (hreferences item (by simp [Shape.references])))
  | option value => exact hhead (says_unknownType (hreferences value (by simp [Shape.references])))
  | keyValue key value =>
    exact hhead
      (List.forall_mem_append.mpr ⟨says_unknownType (hreferences key (by simp [Shape.references])),
      says_unknownType (hreferences value (by simp [Shape.references]))⟩)
  | named target =>
    have htarget : OneLine target := hreferences target (by simp [Shape.references])
    rw [checkShape]
    split
    · intro report hreport
      rw [← Option.some.inj hreport, Report.says_line_iff]
      exact .naming (.fixed rfl) htarget rfl
    · exact hhead (says_unknownType htarget)
  | null => exact fun report hreport ↦ (by cases hreport)
  | primitive kind => exact fun report hreport ↦ (by cases hreport)

theorem says_checkType (h : type.Plain) : ∀ report ∈ scope.checkType type, report.Says OneLine := by
  refine Report.says_groupUnlessEmpty ?_ (List.forall_mem_append.mpr ⟨says_lineIf (.fixed rfl),
    Report.forall_mem_toList (says_checkShape h.references h.members)⟩)
  exact .naming (.fixed rfl) h.name rfl

/-- Rows that a plain scope stands for have plain columns. -/
theorem Plain.columns (h : scope.Plain) {columns : List Column}
    (hshape : scope.shape? name = some (.row columns)) :
    ∀ name ∈ columns.map Column.name, OneLine name := by
  obtain ⟨type, htype, hrow⟩ := Option.map_eq_some_iff.mp hshape
  have hmembers := (h type (mem_of_lookupType htype)).members
  rw [hrow] at hmembers
  exact hmembers

end Scope

/-! ### States -/

namespace Validation

variable {scope : Scope} {state : TypedState} {P : String → Prop}

/-- Settling the value of a state takes columns from the scope, and no other names. -/
theorem plain_of_resolve {resolved : TypedState} (hscope : scope.Plain) (h : state.namedType.Plain)
    (hresolve : state.resolve scope.shape? = .ok resolved) : resolved.namedType.Plain := by
  rcases TypedState.resolve_eq_ok_iff.mp hresolve with ⟨rfl, -⟩ |
    ⟨name, shape, value, hopen, hshape, hvalue, rfl⟩
  · exact h
  · have hkey : OneLine state.type.key :=
      h.references _ (by simp [TypedState.namedType, Shape.references, hopen])
    unfold StateValue.ofShape? at hvalue
    split at hvalue
    next =>
      cases hvalue
      exact ⟨h.name, by simpa [TypedState.namedType, Shape.references] using hkey,
        List.forall_mem_nil _⟩
    next columns =>
      cases hvalue
      have hrow : scope.shape? name = some (.row columns) := by
        unfold TypedState.valueShape at hshape
        cases hfound : scope.shape? name with
        | none => simp [hfound] at hshape
        | some found => simpa [hfound] using hshape
      exact ⟨h.name, by simpa [TypedState.namedType, Shape.references] using hkey,
        hscope.columns hrow⟩
    next => cases hvalue

theorem oneLine_of_resolve_error {error : InvalidStateValue} (h : OneLine state.name)
    (hresolve : state.resolve scope.shape? = .error error) : OneLine error.message := by
  have hstate : error.state = state.name := by
    unfold TypedState.resolve at hresolve
    split at hresolve
    · split at hresolve <;> cases hresolve
      rfl
    · cases hresolve
  unfold InvalidStateValue.message
  rw [hstate]
  exact .naming (.fixed rfl) h rfl

theorem says_stateGroup {report : Report} (h : report.Says OneLine) :
    (stateGroup report).Says OneLine :=
  Report.says_group_iff.mpr ⟨.fixed rfl, List.forall_mem_singleton.mpr h⟩

theorem says_map_stateGroup {reports : List Report} (h : ∀ report ∈ reports, report.Says OneLine) :
    ∀ report ∈ reports.map stateGroup, report.Says OneLine :=
  List.forall_mem_map.mpr fun report hreport ↦ says_stateGroup (h report hreport)

theorem says_typedProblems (h : state.namedType.Plain) :
    ∀ report ∈ State.typedProblems state, report.Says OneLine := by
  have hmembers := h.members
  unfold State.typedProblems
  split
  next =>
    refine List.forall_mem_singleton.mpr (Report.says_line_iff.mpr ?_)
    exact .append (.fixed rfl) (.fixed rfl)
  next columns hrow =>
    rw [TypedState.namedType,
      show state.type = { key := state.type.key, value := .row columns } by rw [← hrow]] at hmembers
    exact Report.forall_mem_toList (says_checkStateRow hmembers)
  next => exact List.forall_mem_nil _

theorem oneLine_referenceProblems (target : Option StateTarget) :
    ∀ line ∈ State.referenceProblems target, OneLine line := by
  have hform : OneLine State.referenceForm := .fixed rfl
  unfold State.referenceProblems
  split
  · exact List.forall_mem_singleton.mpr (oneLine_append_iff.mpr ⟨.fixed rfl, hform⟩)
  · split
    case h_4 => exact List.forall_mem_nil _
    all_goals exact List.forall_mem_singleton.mpr (oneLine_append_iff.mpr ⟨.fixed rfl, hform⟩)

theorem oneLine_systemProblems {name kind : String} (h : OneLine name) :
    ∀ line ∈ State.systemProblems name kind, OneLine line := by
  unfold State.systemProblems
  split
  · exact List.forall_mem_singleton.mpr (.fixed rfl)
  · exact List.forall_mem_singleton.mpr (.fixed rfl)
  · refine List.forall_mem_singleton.mpr ?_
    exact .naming (.fixed rfl) h rfl
  · exact List.forall_mem_nil _

theorem says_poolStateProblems (hscope : scope.Plain) {state : PoolState} (h : state.Plain) :
    ∀ report ∈ poolStateProblems scope state, report.Says OneLine := by
  have hlines {lines : List String} (hlines : ∀ line ∈ lines, OneLine line) :
      ∀ report ∈ (Report.linesUnlessEmpty lines).toList, report.Says OneLine :=
    Report.forall_mem_toList (Report.says_linesUnlessEmpty hlines)
  unfold poolStateProblems
  cases hsource : state.source with
  | owned typed =>
    cases typed with
    | none =>
      simp only [State.problems, hsource]
      exact List.forall_mem_nil _
    | some typed =>
      have htyped := h.owned typed hsource
      dsimp only
      split
      next error hresolve =>
        refine List.forall_mem_singleton.mpr (says_stateGroup (Report.says_line_iff.mpr ?_))
        exact oneLine_of_resolve_error htyped.name hresolve
      next resolved hresolve =>
        exact says_map_stateGroup (says_typedProblems (plain_of_resolve hscope htyped hresolve))
  | reference target typed =>
    simp only [State.problems, hsource]
    exact says_map_stateGroup (hlines (oneLine_referenceProblems target))
  | system kind =>
    simp only [State.problems, hsource]
    exact says_map_stateGroup (hlines (oneLine_systemProblems h.name))

theorem says_packageStateProblems (hscope : scope.Plain) (h : state.namedType.Plain) :
    ∀ report ∈ packageStateProblems scope state, report.Says OneLine := by
  unfold packageStateProblems
  split
  next error hresolve =>
    refine List.forall_mem_singleton.mpr (says_stateGroup (Report.says_line_iff.mpr ?_))
    exact oneLine_of_resolve_error h.name hresolve
  next resolved hresolve =>
    have hplain := plain_of_resolve hscope h hresolve
    split
    next name hopen =>
      refine List.forall_mem_singleton.mpr
        (says_stateGroup (Report.says_line_iff.mpr (oneLine_unknownTypeLine ?_)))
      exact hplain.references name (by simp [TypedState.namedType, Shape.references, hopen])
    next => exact says_map_stateGroup (says_typedProblems hplain)

/-! ### Sources and sinks -/

section Endpoints

variable {around : Surroundings} {endpoint : Endpoint} {operation : Operation}
  {operations : List Operation} {pair : Pair} (htopics : ∀ topic ∈ around.topics, topic.pair.Plain)
  (hid : OneLine endpoint.id) (hsteps : ∀ operation ∈ endpoint.transforms, operation.step.Plain)

theorem says_worded {reports : List Report} (h : ∀ report ∈ reports, report.Says OneLine) :
    ∀ report ∈ reports, report.Says (Worded scope operations) :=
  fun report hreport ↦ (h report hreport).imp fun _ ↦ .inl

theorem oneLine_unknownTopic {id : String} (h : OneLine id) :
    OneLine (UnknownTopic.message ⟨id⟩) := by
  unfold UnknownTopic.message
  exact .naming (.fixed rfl) h rfl

include htopics in
theorem plain_of_targetPair (h : endpoint.targetPair around.topics = .ok (some pair)) :
    pair.Plain := by
  unfold Endpoint.targetPair at h
  split at h
  · cases h
  · cases h
    exact ⟨fun key hkey ↦ (by cases hkey), .fixed rfl⟩
  all_goals
    split at h
    next topic htopic =>
      cases h
      exact htopics topic (List.mem_of_find?_eq_some htopic)
    next => cases h

include hid in
theorem oneLine_of_targetPair_error {error : UnknownTopic}
    (h : endpoint.targetPair around.topics = .error error) :
    OneLine error.message := by
  unfold Endpoint.targetPair at h
  split at h
  · cases h
  · cases h
  all_goals
    split at h <;> cases h
    exact oneLine_unknownTopic hid

theorem plain_of_chainOutput (hstep : operation.step.Plain) (h : chainOutput operation = .ok pair) :
    pair.Plain := by
  unfold chainOutput at h
  split at h
  · split at h <;> cases h
    next hpair => exact hstep.inputPair hpair
  · split at h <;> cases h
    next output houtput => exact hstep.output output houtput

theorem oneLine_of_chainOutput_error {text : String} (h : chainOutput operation = .error text) :
    OneLine text := by
  unfold chainOutput at h
  split at h
  · split at h <;> cases h
    exact .fixed rfl
  · split at h <;> cases h
    exact .fixed rfl

theorem says_transformsBlock {P : String → Prop} {report : Report}
    (hheading : P "Transforms block is invalid:") (h : report.Says P) :
    (transformsBlock [report]).Says P :=
  Report.says_group_iff.mpr ⟨hheading, List.forall_mem_singleton.mpr h⟩

theorem says_blockUnlessEmpty {P : String → Prop} {lines : List String}
    (hheading : P "Transforms block is invalid:") (h : ∀ line ∈ lines, P line) :
    ∀ report ∈ ((Report.linesUnlessEmpty lines).map fun lines ↦ transformsBlock [lines]).toList,
      report.Says P := by
  intro report hreport
  obtain ⟨inner, hinner, rfl⟩ := Option.map_eq_some_iff.mp (Option.mem_toList.mp hreport)
  exact says_transformsBlock hheading (Report.says_linesUnlessEmpty h inner hinner)

theorem says_disagreement {what lower : String} {pairs : List (String × Pair)}
    (hwhat : OneLine what) (hlower : OneLine lower)
    (hpairs : ∀ item ∈ pairs, OneLine item.1 ∧ item.2.Plain) :
    ∀ report ∈ disagreement what lower pairs, report.Says OneLine := by
  unfold disagreement
  split
  · exact List.forall_mem_nil _
  · refine List.forall_mem_singleton.mpr (Report.says_group_iff.mpr
      ⟨?_, List.forall_mem_singleton.mpr (Report.says_line_iff.mpr ?_)⟩)
    · exact .naming (.append hwhat (.fixed rfl)) hlower rfl
    · refine Text.oneLine_join (.fixed rfl) (List.forall_mem_map.mpr fun item hitem ↦ ?_)
      obtain ⟨hname, hpair⟩ := hpairs item hitem
      exact .append (.append hname (.fixed rfl)) hpair.text

theorem says_invalidOperators {lines : List String}
    (h : ∀ line ∈ lines, Worded scope operations line) :
    ∀ report ∈ (if lines.isEmpty then [] else [invalidOperators lines]),
      report.Says (Worded scope operations) := by
  split
  · exact List.forall_mem_nil _
  · refine List.forall_mem_singleton.mpr (Report.says_group_iff.mpr ⟨.inl (.fixed rfl),
        List.forall_mem_map.mpr ?_⟩)
    exact fun line hline ↦ Report.says_line_iff.mpr (h line hline)

include htopics hsteps in
theorem plain_of_sourcePair (h : sourcePair around endpoint = .ok pair) : pair.Plain := by
  unfold sourcePair at h
  split at h
  next last hlast =>
    exact plain_of_chainOutput (hsteps last (List.mem_of_getLast? hlast)) (mapError_eq_ok_iff.mp h)
  next =>
    split at h <;> cases h
    next htarget => exact plain_of_targetPair htopics htarget

include hid in
theorem says_of_sourcePair_error {report : Report}
    (h : sourcePair around endpoint = .error report) :
    report.Says OneLine := by
  unfold sourcePair at h
  split at h
  · obtain ⟨text, htext, rfl⟩ := mapError_eq_error_iff.mp h
    exact says_transformsBlock (.fixed rfl)
      (Report.says_line_iff.mpr (oneLine_of_chainOutput_error htext))
  · split at h <;> cases h
    next htarget => exact Report.says_line_iff.mpr (oneLine_of_targetPair_error hid htarget)
    next => exact Report.says_line_iff.mpr (.fixed rfl)

include htopics hid hsteps in
theorem says_sourceProblems :
    ∀ report ∈ sourceProblems around endpoint,
      report.Says (Worded around.scope endpoint.transforms) := by
  simp only [sourceProblems, List.forall_mem_append, and_assoc]
  refine ⟨says_worded ?_, ?_, says_lineIf (.inl (oneLine_unknownTopic hid))⟩
  · split
    next report hpair => exact List.forall_mem_singleton.mpr (says_of_sourcePair_error hid hpair)
    next => exact List.forall_mem_nil _
  · unfold sourceTransforms
    split
    next target htarget =>
      refine says_invalidOperators
        (worded_transformProblems hsteps (plain_of_targetPair htopics htarget) ?_)
      exact .naming (.fixed rfl) hid rfl
    next => exact List.forall_mem_nil _

include htopics hsteps in
theorem plain_of_sinkPair (h : sinkPair around endpoint = .ok (some pair)) : pair.Plain := by
  unfold sinkPair at h
  split at h
  next first rest htransforms =>
    split at h <;> cases h
    next hpair => exact (hsteps first (by simp [htransforms])).inputPair hpair
  next => exact plain_of_targetPair htopics (mapError_eq_ok_iff.mp h)

include hid in
theorem says_of_sinkPair_error {report : Report} (h : sinkPair around endpoint = .error report) :
    report.Says OneLine := by
  unfold sinkPair at h
  split at h
  · split at h <;> cases h
    exact says_transformsBlock (.fixed rfl) (Report.says_line_iff.mpr (.fixed rfl))
  · obtain ⟨error, herror, rfl⟩ := mapError_eq_error_iff.mp h
    exact Report.says_line_iff.mpr (oneLine_of_targetPair_error hid herror)

theorem oneLine_sinkInputLines {taken output : Pair} (htaken : taken.Plain)
    (houtput : output.Plain) :
    ∀ line ∈ sinkInputLines taken output, OneLine line := by
  unfold sinkInputLines
  refine List.forall_mem_append.mpr ⟨forall_mem_unless ?_, ?_⟩
  · exact .naming (.naming (.fixed rfl) houtput.value rfl) htaken.value rfl
  · split
    next key found hkey hfound =>
      refine forall_mem_unless ?_
      exact .naming (.naming (.fixed rfl) (htaken.key key hkey) rfl) (houtput.key found hfound) rfl
    next => exact List.forall_mem_nil _

include htopics hid in
theorem oneLine_sinkOutputLines {final : Pair} (hfinal : final.Plain) :
    ∀ line ∈ sinkOutputLines around endpoint final, OneLine line := by
  unfold sinkOutputLines
  split
  · exact List.forall_mem_nil _
  · exact List.forall_mem_singleton.mpr (.fixed rfl)
  next target htarget =>
    have hplain := plain_of_targetPair htopics htarget
    refine List.forall_mem_append.mpr ⟨forall_mem_unless ?_, ?_⟩
    · exact .naming (.naming (.fixed rfl) hfinal.value rfl) hplain.value rfl
    · split
      next key found hkey hfound =>
        refine forall_mem_unless ?_
        simp only [oneLine_append_iff, and_assoc]
        exact ⟨.fixed rfl, hid, .fixed rfl, hfinal.key found hfound, .fixed rfl,
          hplain.key key hkey, .fixed rfl⟩
      next => exact List.forall_mem_nil _

include htopics hid hsteps in
theorem says_sinkProblems (hpair : pair.Plain) :
    ∀ report ∈ sinkProblems around endpoint pair,
      report.Says (Worded around.scope endpoint.transforms) := by
  simp only [sinkProblems, List.forall_mem_append, and_assoc]
  refine ⟨says_worded ?_, ?_,
    says_worded (says_blockUnlessEmpty (.fixed rfl) (List.forall_mem_append.mpr ⟨?_, ?_⟩))⟩
  · split
    next report hreport => exact List.forall_mem_singleton.mpr (says_of_sinkPair_error hid hreport)
    next => exact List.forall_mem_nil _
    next => exact List.forall_mem_nil _
  · split
    next => exact List.forall_mem_nil _
    next => exact says_invalidOperators (worded_transformProblems hsteps hpair (.fixed rfl))
  · split
    next => exact List.forall_mem_nil _
    next taken htaken =>
      exact oneLine_sinkInputLines (plain_of_sinkPair htopics hsteps htaken) hpair
    next => exact List.forall_mem_nil _
  · split
    next => exact List.forall_mem_nil _
    next last hlast =>
      dsimp only
      split
      next text htext => exact List.forall_mem_singleton.mpr (oneLine_of_chainOutput_error htext)
      next final hfinal =>
        exact oneLine_sinkOutputLines htopics hid
          (plain_of_chainOutput (hsteps last (List.mem_of_getLast? hlast)) hfinal)

end Endpoints

/-! ### Services -/

section Services

variable {around : Surroundings} {service : Service} {pair : Pair}

/-- Where each item says something of its own operations, all say something of the operations of
all. -/
theorem says_filterMap_group {items : List Endpoint} {operations : List Operation}
    {heading : Endpoint → String} {problems : Endpoint → List Report}
    (hheading : ∀ item ∈ items, OneLine (heading item))
    (hproblems : ∀ item ∈ items, ∀ report ∈ problems item, report.Says
      (Worded scope item.transforms)) (hsubset : ∀ item ∈ items, item.transforms ⊆ operations) :
    ∀ report ∈ items.filterMap fun item ↦ Report.groupUnlessEmpty (heading item) (problems item),
      report.Says (Worded scope operations) := by
  refine List.forall_mem_filterMap.mpr fun item hitem ↦
    Report.says_groupUnlessEmpty (.inl (hheading item hitem)) fun child hchild ↦ ?_
  exact (hproblems item hitem child hchild).imp fun _ hworded ↦ hworded.mono (hsubset item hitem)

variable (htopics : ∀ topic ∈ around.topics, topic.pair.Plain) (hservice : service.Plain)

include htopics hservice

theorem says_sourcesProblems :
    ∀ report ∈ sourcesProblems around service.sources,
      report.Says (Worded around.scope service.operations) := by
  have hsubset : ∀ source ∈ service.sources, source.transforms ⊆ service.operations := by
    intro source hsource operation hoperation
    simp only [Service.operations, List.mem_append, List.mem_flatMap]
    exact .inl (.inl (.inl (.inl ⟨source, hsource, hoperation⟩)))
  have hsteps : ∀ source ∈ service.sources, ∀ operation ∈ source.transforms, operation.step.Plain :=
    fun source hsource operation hoperation ↦
      hservice.steps operation (hsubset source hsource hoperation)
  refine List.forall_mem_append.mpr
    ⟨says_filterMap_group (fun source hsource ↦ ?_) (fun source hsource ↦
    says_sourceProblems htopics (hservice.sources source hsource) (hsteps source hsource)) hsubset,
    says_worded (says_disagreement (.fixed rfl) (.fixed rfl) fun item hitem ↦ ?_)⟩
  · exact .naming (.fixed rfl) (hservice.sources source hsource) rfl
  · obtain ⟨source, hsource, hmap⟩ := List.mem_filterMap.mp hitem
    obtain ⟨brought, hbrought, rfl⟩ := Option.map_eq_some_iff.mp hmap
    exact ⟨hservice.sources source hsource,
      plain_of_sourcePair htopics (hsteps source hsource) (eq_ok_of_toOption hbrought)⟩

theorem says_sinksProblems (hpair : pair.Plain) :
    ∀ report ∈ sinksProblems around service.sinks pair,
      report.Says (Worded around.scope service.operations) := by
  have hsubset : ∀ sink ∈ service.sinks, sink.transforms ⊆ service.operations := by
    intro sink hsink operation hoperation
    simp only [Service.operations, List.mem_append, List.mem_flatMap]
    exact .inr ⟨sink, hsink, hoperation⟩
  have hsteps : ∀ sink ∈ service.sinks, ∀ operation ∈ sink.transforms, operation.step.Plain :=
    fun sink hsink operation hoperation ↦ hservice.steps operation (hsubset sink hsink hoperation)
  refine List.forall_mem_append.mpr ⟨says_filterMap_group (fun sink hsink ↦ ?_) (fun sink hsink ↦
    says_sinkProblems htopics (hservice.sinks sink hsink) (hsteps sink hsink) hpair) hsubset,
    says_worded (says_disagreement (.fixed rfl) (.fixed rfl) fun item hitem ↦ ?_)⟩
  · exact .naming (.fixed rfl) (hservice.sinks sink hsink) rfl
  · obtain ⟨sink, hsink, hmap⟩ := List.mem_filterMap.mp hitem
    split at hmap <;> cases hmap
    next taken htaken =>
      exact ⟨hservice.sinks sink hsink, plain_of_sinkPair htopics (hsteps sink hsink) htaken⟩

theorem plain_of_servicePair (h : servicePair around service = .ok pair) : pair.Plain := by
  unfold servicePair at h
  split at h
  · cases h
  next first rest hsources =>
    refine plain_of_sourcePair htopics (fun operation hoperation ↦ hservice.steps operation ?_)
      (mapError_eq_ok_iff.mp h)
    simp [Service.operations, hsources, hoperation]

omit htopics

theorem says_of_servicePair_error {report : Report}
    (h : servicePair around service = .error report) :
    report.Says OneLine := by
  unfold servicePair at h
  split at h
  · cases h
    exact Report.says_line_iff.mpr (.fixed rfl)
  next first rest hsources =>
    obtain ⟨_, -, rfl⟩ := mapError_eq_error_iff.mp h
    refine Report.says_line_iff.mpr ?_
    exact .naming (.fixed rfl) (hservice.sources first (by simp [hsources])) rfl

theorem plain_of_mem_transforms : ∀ operation ∈ service.transforms, operation.step.Plain :=
  fun operation hoperation ↦ hservice.steps operation (by simp [Service.operations, hoperation])

theorem plain_of_mem_window {window : Window} (hwindow : service.window = some window) :
    ∀ operation ∈ window.operations, operation.step.Plain :=
  fun operation hoperation ↦
    hservice.steps operation (by simp [Service.operations, hwindow, hoperation])

theorem plain_of_mem_partition {partition : Partition}
    (hpartition : service.partition = some partition) :
    ∀ operation ∈ partition.operations, operation.step.Plain :=
  fun operation hoperation ↦
    hservice.steps operation (by simp [Service.operations, hpartition, hoperation])

theorem says_stageProblems (hpair : pair.Plain) :
    ∀ report ∈ stageProblems scope service pair, report.Says (Worded scope service.operations) := by
  refine Report.forall_mem_toList (Report.says_linesUnlessEmpty ?_)
  split
  next window _ hwindow =>
    refine worded_inContext (.fixed rfl) fun line hline ↦ ?_
    refine (worded_windowProblems (plain_of_mem_window hservice hwindow) hpair (.fixed rfl) line
        hline).mono ?_
    exact fun operation hoperation ↦ by simp [Service.operations, hwindow, hoperation]
  next partition _ hpartition =>
    refine worded_inContext (.fixed rfl) fun line hline ↦ ?_
    refine (worded_partitionProblems (plain_of_mem_partition hservice hpartition) hpair (.fixed rfl)
        line hline).mono ?_
    exact fun operation hoperation ↦ by simp [Service.operations, hpartition, hoperation]
  next => exact List.forall_mem_nil _

theorem plain_of_stageOutput (hpair : pair.Plain) {output : Pair}
    (h : stageOutput service pair = some output) :
    output.Plain := by
  unfold stageOutput at h
  split at h
  next window _ hwindow =>
    exact plain_of_windowOutput (plain_of_mem_window hservice hwindow) hpair h
  next partition _ hpartition =>
    exact plain_of_partitionOutput (plain_of_mem_partition hservice hpartition) hpair h
  next => exact Option.some.inj h ▸ hpair

include htopics

variable (hscope : around.scope.Plain)

include hscope

theorem says_transformReports (hpair : pair.Plain) :
    ∀ report ∈ transformReports around service pair,
      report.Says (Worded around.scope service.operations) := by
  simp only [transformReports, List.forall_mem_append, and_assoc]
  refine ⟨says_sourcesProblems htopics hservice,
    says_worded (List.forall_mem_flatMap.mpr fun state hstate ↦
    says_poolStateProblems hscope (hservice.states state hstate)),
    says_blockUnlessEmpty (.inl (.fixed rfl)) fun line hline ↦ ?_⟩
  refine (worded_transformProblems (plain_of_mem_transforms hservice) hpair (.fixed rfl) line
      hline).mono ?_
  exact fun operation hoperation ↦ by simp [Service.operations, hoperation]

theorem says_serviceProblems :
    ∀ report ∈ serviceProblems around service,
      report.Says (Worded around.scope service.operations) := by
  have hheading : OneLine (Report.serviceHeading service.name) := by
    unfold Report.serviceHeading
    exact .naming (.fixed rfl) hservice.name rfl
  have hname : ∀ report ∈ lineIf service.name.isEmpty "Service name cannot be empty",
      report.Says (Worded around.scope service.operations) := says_lineIf (.inl (.fixed rfl))
  have hreport {children : List Report}
      (h : ∀ child ∈ children, child.Says (Worded around.scope service.operations)) :
      (Report.service service.name children).Says (Worded around.scope service.operations) :=
    Report.says_service_iff.mpr ⟨.inl hheading, h⟩
  have happend {first second : List Report}
      (h : ∀ child ∈ first, child.Says (Worded around.scope service.operations))
      (h' : ∀ child ∈ second, child.Says (Worded around.scope service.operations)) :
      ∀ child ∈ first ++ second, child.Says (Worded around.scope service.operations) :=
    List.forall_mem_append.mpr ⟨h, h'⟩
  intro report h
  unfold serviceProblems at h
  dsimp only at h
  split at h
  next error hpair =>
    cases h
    refine hreport (happend hname (says_worded (List.forall_mem_singleton.mpr ?_)))
    exact says_of_servicePair_error hservice hpair
  next pair hpair =>
    have hpair := plain_of_servicePair htopics hservice hpair
    have hbefore := says_transformReports htopics hservice hscope hpair
    split at h
    next =>
      cases h
      refine hreport
        (happend hname (happend hbefore (says_worded (List.forall_mem_singleton.mpr ?_))))
      exact says_transformsBlock (.fixed rfl) (Report.says_line_iff.mpr (.fixed rfl))
    next middle hmiddle =>
      have hmiddle := plain_of_transformsOutput (plain_of_mem_transforms hservice) hpair hmiddle
      have hstage : ∀ report ∈ stageProblems around.scope service middle,
          report.Says (Worded around.scope service.operations) :=
        says_stageProblems hservice hmiddle
      split at h
      next =>
        cases h
        exact hreport (happend hname (happend hbefore hstage))
      next output houtput =>
        have houtput := plain_of_stageOutput hservice hmiddle houtput
        split at h
        · cases h
        · cases h
          exact hreport (happend (happend (happend hname hbefore) hstage)
            (says_sinksProblems htopics hservice houtput))

end Services

end Validation

end FlowSpec
