import FlowSpec.Proofs.Schedule.Messages
import FlowSpec.Proofs.Validation.ReportWording

/-!
Which reports of validation are indented uniformly. Names of more than one line aside, every text of
a report is one line, or is the line on a key that cannot be hashed. So a report is indented
uniformly exactly if it says nothing of such a key (`uniform_iff_hashable`).
-/

set_option autoImplicit false

namespace FlowSpec

open Text (OneLine oneLine_append_iff)

/-! ### Definitions whose names are single lines -/

structure Topic.Plain (topic : Topic) : Prop where
  name : OneLine topic.name
  pair : topic.pair.Plain

structure Schedule.Plain (schedule : Schedule) : Prop where
  name : OneLine schedule.name
  cron : OneLine schedule.cron

structure Header.Plain (header : Header) : Prop where
  owner : OneLine header.owner
  name : OneLine header.name
  version : OneLine header.version

structure Dataflow.Plain (dataflow : Dataflow) : Prop where
  apiVersion : OneLine dataflow.apiVersion
  header : dataflow.header.Plain
  types : ∀ type ∈ dataflow.types, type.Plain
  topics : ∀ topic ∈ dataflow.topics, topic.Plain
  schedules : ∀ schedule ∈ dataflow.schedules, schedule.Plain
  services : ∀ service ∈ dataflow.services, service.Plain

structure Package.Plain (package : Package) : Prop where
  header : package.header.Plain
  types : ∀ type ∈ package.types, type.Plain
  states : ∀ state ∈ package.states, state.namedType.Plain
  functions : ∀ function ∈ package.functions, function.step.Plain

namespace Validation

variable {scope : Scope}

/-! ### Reports on definitions -/

section Definitions

variable {dataflow : Dataflow} {package : Package}

theorem oneLine_headerProblems {header : Header} (h : header.Plain) :
    ∀ line ∈ header.problems, OneLine line := by
  have hclash {label part : String} (hlabel : OneLine label) (hpart : OneLine part) :
      ∀ line ∈ Header.clashProblems label part, OneLine line := by
    unfold Header.clashProblems
    split
    next reason hreason =>
      have honeline : OneLine reason := by
        unfold Header.separatorClash at hreason
        split at hreason
        next sep hsep =>
          have hseps : ∀ sep ∈ ["/", "@", "__"], OneLine sep := by
            simp only [List.forall_mem_cons]
            exact ⟨.fixed rfl, .fixed rfl, .fixed rfl, List.forall_mem_nil _⟩
          cases hreason
          exact .naming (.fixed rfl) (hseps sep (List.mem_of_find?_eq_some hsep)) rfl
        next =>
          split at hreason <;> cases hreason
          exact .fixed rfl
      refine List.forall_mem_singleton.mpr ?_
      exact .append (.naming (.append hlabel (.fixed rfl)) hpart rfl) honeline
    next => exact List.forall_mem_nil _
  have hversion : ∀ line ∈ Header.versionProblems header.version, OneLine line := by
    unfold Header.versionProblems
    split
    · exact List.forall_mem_singleton.mpr (.fixed rfl)
    · split
      · exact List.forall_mem_nil _
      · refine List.forall_mem_singleton.mpr ?_
        exact .naming (.fixed rfl) h.version rfl
  simp only [Header.problems, List.forall_mem_append, and_assoc]
  exact ⟨forall_mem_where (.fixed rfl), forall_mem_where (.fixed rfl), hclash (.fixed rfl) h.name,
    hclash (.fixed rfl) h.owner, hclash (.fixed rfl) h.version, hversion⟩

theorem says_headerProblems {header : Header} (h : header.Plain) :
    ∀ report ∈ headerProblems header, report.Says OneLine := by
  refine List.forall_mem_map.mpr (Report.forall_mem_toList fun lines hlines ↦
    Report.says_group_iff.mpr ⟨.fixed rfl, List.forall_mem_singleton.mpr ?_⟩)
  exact Report.says_linesUnlessEmpty (oneLine_headerProblems h) lines hlines

theorem oneLine_versionProblems (h : OneLine dataflow.apiVersion) :
    ∀ line ∈ versionProblems dataflow, OneLine line := by
  unfold versionProblems
  split
  next error herror =>
    have hcause : OneLine error.cause.message := by
      unfold ApiVersion.parse at herror
      split at herror <;> cases herror
      next cause hcause =>
        unfold Version.parse at hcause
        dsimp only at hcause
        -- with a `v` in front or without
        split at hcause
        all_goals
          split at hcause
          · split at hcause <;> cases hcause
            exact oneLine_append_iff.mpr ⟨.fixed rfl, Text.oneLine_readingMessage (.fixed rfl) _ _⟩
          · cases hcause
            exact oneLine_append_iff.mpr ⟨.fixed rfl, h⟩
    refine List.forall_mem_singleton.mpr ?_
    unfold ApiVersion.Error.message
    simp only [oneLine_append_iff, and_assoc]
    exact ⟨.fixed rfl, .fixed rfl, Text.oneLine_quoted _, .fixed rfl, hcause⟩
  next =>
    split
    · exact List.forall_mem_singleton.mpr (oneLine_append_iff.mpr ⟨.fixed rfl, h⟩)
    · split
      · refine List.forall_mem_singleton.mpr ?_
        exact .naming (.fixed rfl) h rfl
      · exact List.forall_mem_nil _

theorem oneLine_topicNameProblems (name : String) :
    ∀ line ∈ topicNameProblems name, OneLine line := by
  unfold topicNameProblems
  split
  · exact List.forall_mem_singleton.mpr (.fixed rfl)
  · simp only [List.forall_mem_append, and_assoc]
    exact ⟨forall_mem_where (.fixed rfl), forall_mem_unless (.fixed rfl),
      forall_mem_where (.fixed rfl)⟩

theorem says_topicProblems {topic : Topic} (h : topic.Plain) :
    ∀ report ∈ topicProblems scope topic, report.Says OneLine := by
  refine Report.says_groupUnlessEmpty ?_ ?_
  · exact .naming (.fixed rfl) h.name rfl
  · simp only [List.forall_mem_append, and_assoc]
    refine ⟨List.forall_mem_map.mpr (Report.forall_mem_toList fun lines hlines ↦
        Report.says_group_iff.mpr
      ⟨.fixed rfl, List.forall_mem_singleton.mpr ?_⟩), ?_, Scope.says_unknownType h.pair.value,
      says_lineIf (.fixed rfl)⟩
    · exact Report.says_linesUnlessEmpty (oneLine_topicNameProblems topic.name) lines hlines
    split
    next key hkey =>
      exact says_lineIf (oneLine_keyTypeLine (h.pair.key key.type (by simp [Topic.pair, hkey])))
    next => exact List.forall_mem_nil _

theorem says_scheduleProblems {schedule : Schedule} (h : schedule.Plain) :
    ∀ report ∈ scheduleProblems schedule, report.Says OneLine := by
  intro report hreport
  unfold scheduleProblems at hreport
  split at hreport <;> cases hreport
  next error herror =>
    obtain ⟨cause, hcause, rfl⟩ := Outcome.mapError_eq_error_iff.mp herror
    refine Report.says_group_iff.mpr ⟨?_, List.forall_mem_singleton.mpr (Report.says_line_iff.mpr
      (oneLine_append_iff.mpr ⟨.fixed rfl, Schedule.toldOnOneLine_checkCron h.cron cause hcause⟩))⟩
    exact .naming (.fixed rfl) h.name rfl

theorem says_undefinedReference (h : ∀ service ∈ dataflow.services, service.Plain) :
    ∀ report ∈ undefinedReference dataflow, report.Says OneLine := by
  intro report hreport
  obtain ⟨service, hservice, hline⟩ := List.mem_flatMap.mp (List.mem_of_mem_head? hreport)
  obtain ⟨state, hstate, rfl⟩ := List.mem_map.mp hline
  have htarget : OneLine (targetText state) := by
    unfold targetText
    split
    next target typed hsource =>
      have hplain := (h service hservice).states state (List.mem_filter.mp hstate).1
      obtain ⟨hother, hname⟩ := hplain.target target typed hsource
      unfold StateTarget.text
      exact .append (.append hother (.fixed rfl)) hname
    next => exact .fixed rfl
  refine Report.says_line_iff.mpr ?_
  exact .naming (.naming (.fixed rfl) htarget rfl) ((h service hservice).name) rfl

theorem repeatedNames_subset (names seen told : List String) :
    repeatedNames names seen told ⊆ names := by
  induction names generalizing seen told with
  | nil => exact List.nil_subset _
  | cons name rest ih =>
    rw [repeatedNames]
    split
    · exact List.cons_subset_cons name (ih seen (name :: told))
    · exact List.subset_cons_of_subset name (ih (name :: seen) told)

theorem says_duplicateInline (h : ∀ service ∈ dataflow.services, service.Plain) :
    ∀ report ∈ duplicateInline dataflow, report.Says OneLine := by
  refine Report.says_linesUnlessEmpty (List.forall_mem_map.mpr fun name hname ↦ ?_)
  obtain ⟨operation, hoperation, rfl⟩ := List.mem_map.mp (repeatedNames_subset _ [] [] hname)
  obtain ⟨service, hservice, hstep⟩ := List.mem_flatMap.mp (List.mem_filter.mp hoperation).1
  exact .naming (.fixed rfl) (((h service hservice).steps operation hstep).uses) rfl

theorem says_dataflowProblems (hscope : scope.Plain) (h : dataflow.Plain) :
    ∀ report ∈ dataflowProblems scope dataflow,
      report.Says (Worded scope (dataflow.services.flatMap Service.operations)) := by
  simp only [dataflowProblems, List.forall_mem_append, and_assoc]
  refine ⟨says_worded (Report.forall_mem_toList
      (Report.says_linesUnlessEmpty (oneLine_versionProblems h.apiVersion))),
    says_worded (says_headerProblems h.header),
    says_worded (List.forall_mem_filterMap.mpr fun type htype ↦
      Scope.says_checkType (h.types type htype)),
    says_worded (List.forall_mem_filterMap.mpr fun topic htopic ↦
        says_topicProblems (h.topics topic htopic)),
    says_worded (List.forall_mem_filterMap.mpr fun schedule hschedule ↦
      says_scheduleProblems (h.schedules schedule hschedule)),
    List.forall_mem_filterMap.mpr fun service hservice report hreport ↦ ?_,
    says_worded (Report.forall_mem_toList (says_undefinedReference h.services)),
    says_worded (Report.forall_mem_toList (says_duplicateInline h.services))⟩
  refine (says_serviceProblems (fun topic htopic ↦ (h.topics topic htopic).pair)
      (h.services service hservice) hscope
    report hreport).imp fun text htext ↦ htext.mono ?_
  exact fun operation hoperation ↦ List.mem_flatMap.mpr ⟨service, hservice, hoperation⟩

theorem says_packageProblems (hscope : scope.Plain) (h : package.Plain) :
    ∀ report ∈ packageProblems scope package, report.Says (Worded scope package.functions) := by
  simp only [packageProblems, List.forall_mem_append, and_assoc]
  refine ⟨says_worded (says_headerProblems h.header),
    says_worded (List.forall_mem_filterMap.mpr fun type htype ↦
      Scope.says_checkType (h.types type htype)),
    says_worded (List.forall_mem_flatMap.mpr fun state hstate ↦
      says_packageStateProblems hscope (h.states state hstate)),
    Report.forall_mem_toList
      (Report.says_linesUnlessEmpty (List.forall_mem_flatMap.mpr fun function hfunction ↦ ?_))⟩
  exact fun line hline ↦
    (worded_stepProblems (h.functions function hfunction) line hline).of_mem hfunction

end Definitions

/-! ### Uniform indentation -/

/-- One level deeper, every line of the report has one unit of nesting more. -/
def Uniform (report : Report) : Prop :=
  ∀ depth, report.render (depth + 1) = Report.indented (report.render depth)

theorem uniform_iff_oneLine (report : Report) : Uniform report ↔ report.Says OneLine :=
  ⟨fun h ↦ (Report.render_succ_eq_indented_iff report 0).mp (h 0), fun h depth ↦
    (Report.render_succ_eq_indented_iff report depth).mpr h⟩

/-- Where only lines on keys can break, a report without any is indented uniformly. -/
theorem uniform_iff_of_worded {report : Report} {operations : List Operation}
    (h : report.Says (Worded scope operations)) : Uniform report ↔
      ∀ text ∈ report.texts, ∀ operation ∈ operations, ¬TellsUnhashable scope operation text := by
  rw [uniform_iff_oneLine]
  constructor
  · exact fun honeline text htext operation _ htells ↦ htells.not_oneLine (honeline text htext)
  · intro hnone text htext
    refine (h text htext).resolve_right ?_
    rintro ⟨operation, hoperation, htells⟩
    exact hnone text htext operation hoperation htells

/-! ### Events that are their own keys -/

def eventScope : Scope :=
  { types := [{ name := "event", shape := .object [{ name := "id", type := "u64" }] }] }

def pickEvent : Step where
  uses := "pick"
  inputs := [{ name := "event", type := "event" }]
  output := some { value := "event" }

def keyedByEvent : Dataflow where
  apiVersion := "0.6.0"
  header := { owner := "example", name := "flow", version := "0.1.0" }
  types := eventScope.types
  topics :=
    [{ id := "events", name := "events", value := { type := "event", converter := "json" } }]
  services := [{
    name := "count"
    sources := [{ kind := .topic, id := "events" }]
    sinks := [{ kind := .topic, id := "events" }]
    partition := some { assignKey := pickEvent } }]

def eventKeyReport : Report :=
  .service "count" [.lines ["Partition " ++ unhashableText pickEvent "event"]]

theorem dataflowProblems_keyedByEvent :
    dataflowProblems eventScope keyedByEvent = [eventKeyReport] := rfl

theorem tellsUnhashable_pickEvent :
    TellsUnhashable eventScope ⟨.assignKey,
      pickEvent⟩ ("Partition " ++ unhashableText pickEvent "event") :=
  ⟨rfl, "Partition ", { value := "event" }, _, rfl, rfl, rfl, rfl⟩

theorem plain_eventScope : eventScope.Plain :=
  List.forall_mem_singleton.mpr ⟨show OneLine "event" from .fixed rfl,
    List.forall_mem_singleton.mpr (show OneLine "u64" from .fixed rfl),
    List.forall_mem_singleton.mpr (show OneLine "id" from .fixed rfl)⟩

theorem plain_pickEvent : pickEvent.Plain where
  uses := show OneLine "pick" from .fixed rfl
  inputs := List.forall_mem_singleton.mpr
    ⟨show OneLine "event" from .fixed rfl, show OneLine "event" from .fixed rfl⟩
  output := by
    rintro _ ⟨⟩
    exact ⟨fun key hkey ↦ (by cases hkey), show OneLine "event" from .fixed rfl⟩

theorem plain_keyedByEvent : keyedByEvent.Plain where
  apiVersion := show OneLine "0.6.0" from .fixed rfl
  header := ⟨show OneLine "example" from .fixed rfl, show OneLine "flow" from .fixed rfl,
    show OneLine "0.1.0" from .fixed rfl⟩
  types := plain_eventScope
  topics := List.forall_mem_singleton.mpr ⟨show OneLine "events" from .fixed rfl,
    fun key hkey ↦ (by cases hkey), show OneLine "event" from .fixed rfl⟩
  schedules := List.forall_mem_nil _
  services := List.forall_mem_singleton.mpr
    { name := show OneLine "count" from .fixed rfl
      sources := List.forall_mem_singleton.mpr (show OneLine "events" from .fixed rfl)
      sinks := List.forall_mem_singleton.mpr (show OneLine "events" from .fixed rfl)
      steps := List.forall_mem_singleton.mpr plain_pickEvent
      states := List.forall_mem_nil _ }

/-! ### Which reports are indented uniformly -/

/-- A report is indented uniformly exactly if its texts are single lines. Of the reports on a
definition whose names are single lines, those are indented uniformly that do not tell of an
assigned key which cannot be hashed. -/
theorem uniform_iff_hashable (scope : Scope) (hscope : scope.Plain) :
    (∀ report, Uniform report ↔ ∀ text ∈ report.texts, OneLine text) ∧
      (∀ dataflow : Dataflow, dataflow.Plain → ∀ report ∈ dataflowProblems scope dataflow,
        (Uniform report ↔
          ∀ text ∈ report.texts, ∀ operation ∈ dataflow.services.flatMap Service.operations,
          ¬TellsUnhashable scope operation text)) ∧
      ∀ package : Package, package.Plain → ∀ report ∈ packageProblems scope package,
        (Uniform report ↔ ∀ text ∈ report.texts, ∀ operation ∈ package.functions,
          ¬TellsUnhashable scope operation text) :=
  ⟨uniform_iff_oneLine,
    fun _ hdataflow report hreport ↦
      uniform_iff_of_worded (says_dataflowProblems hscope hdataflow report hreport),
    fun _ hpackage report hreport ↦
      uniform_iff_of_worded (says_packageProblems hscope hpackage report hreport)⟩

theorem uniform_iff_hashable_event : eventScope.Plain ∧ keyedByEvent.Plain ∧
    eventKeyReport ∈ dataflowProblems eventScope keyedByEvent ∧ ¬Uniform eventKeyReport := by
  have hmem : eventKeyReport ∈ dataflowProblems eventScope keyedByEvent := by
    rw [dataflowProblems_keyedByEvent]
    exact List.mem_singleton_self _
  refine ⟨plain_eventScope, plain_keyedByEvent, hmem, fun huniform ↦ ?_⟩
  have hnone :=
    ((uniform_iff_hashable eventScope plain_eventScope).2.1 keyedByEvent plain_keyedByEvent
        eventKeyReport hmem).mp huniform
  refine hnone _ ?_ ⟨.assignKey, pickEvent⟩ List.mem_cons_self tellsUnhashable_pickEvent
  exact List.mem_cons_of_mem _ List.mem_cons_self

/-- The list of hashable types gets no unit of nesting, however deep the line that it ends. -/
theorem eventKey_not_uniform : dataflowProblems eventScope keyedByEvent = [eventKeyReport] ∧
    eventKeyReport.render 1 ≠ Report.indented (eventKeyReport.render 0) := by
  refine ⟨dataflowProblems_keyedByEvent, fun h ↦ ?_⟩
  refine tellsUnhashable_pickEvent.not_oneLine
    ((Report.render_succ_eq_indented_iff eventKeyReport 0).mp h _ ?_)
  exact List.mem_cons_of_mem _ List.mem_cons_self

end Validation

end FlowSpec
