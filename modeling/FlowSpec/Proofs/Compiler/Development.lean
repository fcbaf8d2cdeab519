import FlowSpec.Proofs.Compiler.Types
import FlowSpec.Proofs.Lowering.Lines

/-!
What the development section of a document does if development is off. Its imports override none;
all that remains of them is the list of them in the result. Its topics are put over the document's
own whether development is on or not, and so is its converter, so they change the topics of the
result and the types that are inferred from them, and nothing else.

A text with another development section has its declarations and steps on other lines, so documents
are compared without their lines.
-/

set_option autoImplicit false

namespace FlowSpec

open Outcome

/-- The document without its development section and without its lines. -/
def Document.DataflowDocument.besidesDevelopment (document : DataflowDocument) : DataflowDocument :=
  { document.unlined with development := none }

/-- The dataflow with these topics and development imports in place of its own. -/
def Dataflow.withDevelopment (topics : List Topic) (developmentImports : List Import)
    (dataflow : Dataflow) : Dataflow :=
  { dataflow with topics, developmentImports }

namespace Lowering

/-- The topics of a document, with those of its development section over them. -/
def topicsInForce (document : Document.DataflowDocument) : List Topic :=
  (Text.sortByName Prod.fst (effectiveTopics document)).map fun topic ↦
    lowerTopic (defaultConverter document) topic.1 topic.2

/-- Without topics in the development section, the document's own are in force. -/
theorem topicsInForce_of_topics_eq_nil {document : Document.DataflowDocument}
    (h : (document.development.getD {}).topics = []) :
    topicsInForce document = topicsInForce document.besidesDevelopment := by
  have htopics : effectiveTopics document = effectiveTopics document.besidesDevelopment := by
    rw [effectiveTopics, h]
    rfl
  have hconverter : defaultConverter document = defaultConverter document.besidesDevelopment := by
    simp only [defaultConverter, h]
    rfl
  rw [topicsInForce, topicsInForce, htopics, hconverter]

theorem dataflow_with_development (document : Document.DataflowDocument)
    (development : Option Document.DevelopmentEntry) :
    dataflow { document with development } = (dataflow document).map
      (Dataflow.withDevelopment (topicsInForce { document with development })
        (developmentImports development)) := by
  unfold dataflow
  cases parseVersion document.apiVersion with
  | error error => rfl
  | ok version =>
    dsimp only [bind, Except.bind]
    split <;> rfl

/-- A document is lowered as the one without development section and lines, but for its topics and
its development imports. -/
theorem dataflow_eq_map_besidesDevelopment (document : Document.DataflowDocument) :
    dataflow document = (dataflow document.besidesDevelopment).map
      (Dataflow.withDevelopment (topicsInForce document)
        (developmentImports document.development)) :=
  (dataflow_unlined document).symm.trans
    (dataflow_with_development document.besidesDevelopment document.development)

end Lowering

/-! ### Imports -/

namespace Package

variable {useDevelopment : Bool} {development others : List Import} {folder : String}
  {found result : Found} {loader later : Loader}

/-- The development imports of the importing document are read only where an import has no path, and
such an import cannot be followed. -/
theorem follow_of_ok {fuel : Nat} {self : Import}
    (h : (follow useDevelopment development fuel folder self found).run.run loader =
      (.ok result, later)) :
    (follow useDevelopment others fuel folder self found).run.run loader = (.ok result, later) := by
  cases fuel with
  | zero => rwa [follow] at h ⊢
  | succ fuel =>
    rw [follow] at h ⊢
    by_cases hpath : self.path.isEmpty
    · rw [if_pos hpath] at h
      cases h
    · rwa [if_neg hpath] at h ⊢

theorem followAll_of_ok {fuel : Nat} {imports : List Import}
    (h : (followAll useDevelopment development fuel folder imports found).run.run loader =
      (.ok result, later)) :
    (followAll useDevelopment others fuel folder imports found).run.run loader =
      (.ok result, later) := by
  induction imports generalizing found loader with
  | nil => rwa [followAll] at h ⊢
  | cons self rest ih =>
    rw [followAll, run_bind_eq_ok_iff] at h ⊢
    obtain ⟨next, between, hself, hrest⟩ := h
    exact ⟨next, between, follow_of_ok hself, ih hrest⟩

/-- With development off, what is fetched does not depend on development imports. -/
theorem fetch_of_ok {imports : List Import} {fetched : List Package × List Import}
    (h : (fetch folder imports development false).run.run loader = (.ok fetched, later)) :
    (fetch folder imports others false).run.run loader = (.ok fetched, later) := by
  rw [fetch, run_bind_eq_ok_iff] at h ⊢
  obtain ⟨known, between, hknown, h⟩ := h
  refine ⟨known, between, hknown, ?_⟩
  rw [run_bind_eq_ok_iff] at h ⊢
  obtain ⟨result, last, hresult, h⟩ := h
  exact ⟨result, last, followAll_of_ok hresult, h⟩

end Package

/-! ### Definitions -/

namespace Dataflow

variable (topics : List Topic) (imports : List Import) (dataflow : Dataflow)

theorem resolveDataflow_withDevelopment (packages : List Package) :
    Package.resolveDataflow (dataflow.withDevelopment topics imports) packages =
      (Package.resolveDataflow dataflow packages).map
        fun resolved ↦ (resolved.1.withDevelopment topics imports, resolved.2) := by
  unfold Package.resolveDataflow
  dsimp only [withDevelopment]
  cases Package.resolve dataflow.imports packages with
  | error error => rfl
  | ok resolution =>
    dsimp only [bind, Except.bind]
    cases Package.mergeTypesAndStates dataflow.types [] dataflow.imports resolution.packages with
    | error error => rfl
    | ok merged =>
      dsimp only
      cases dataflow.services.mapM
        (Package.adoptFunctions dataflow.imports resolution.packages) with
      | error error => rfl
      | ok services => rfl

theorem validateDataflow_withDevelopment (scope : Scope) :
    Validation.validateDataflow scope (dataflow.withDevelopment topics imports) =
      Validation.validateDataflow scope (dataflow.withDevelopment topics []) := rfl

/-- References are followed among the services, whatever the topics are. -/
theorem resolveReferences_withDevelopment :
    State.resolveReferences (dataflow.withDevelopment topics imports) =
      State.resolveReferences dataflow := by
  funext service pool
  induction pool with
  | nil => rfl
  | cons state rest ih =>
    rw [State.resolveReferences, State.resolveReferences, ih]
    rfl

theorem state_resolveDataflow_withDevelopment (lookup : String → Option Shape) :
    State.resolveDataflow lookup (dataflow.withDevelopment topics imports) =
      ((State.resolveDataflow lookup dataflow).1.withDevelopment topics imports,
        (State.resolveDataflow lookup dataflow).2) := by
  have hreferences (services : List Service) :
      State.resolveReferences { dataflow with services, topics, developmentImports := imports } =
        State.resolveReferences { dataflow with services } :=
    resolveReferences_withDevelopment topics imports { dataflow with services }
  unfold State.resolveDataflow
  dsimp only [withDevelopment]
  rw [hreferences]
  split_ifs <;> rfl

end Dataflow

namespace Compiler

open Document (DataflowDocument DevelopmentEntry)
open Lowering (topicsInForce)

/-! ### Compilation -/

/-- What becomes of a dataflow before a stage looks at its topics: the definition with its imports
and states resolved, its scope, and the packages that it imports. -/
structure Settled where
  definition : Dataflow
  scope : Scope
  resolution : Package.Resolution

/-- The result with these topics and development imports, and the types inferred from the topics. -/
def Settled.result (settled : Settled) (topics : List Topic) (developmentImports : List Import)
    (services : List Inference.ServiceTyping) : Result :=
  { content := .dataflow (settled.definition.withDevelopment topics developmentImports) services
    scope := settled.scope
    resolution := settled.resolution }

def settleDataflow (dataflow : Dataflow) (packages : List Package) : Except Error Settled := do
  let (merged, resolution) ← (Package.resolveDataflow dataflow packages).mapError Error.imports
  let scope ← merged.scope.mapError Error.scope
  return { definition := ← resolveStates scope merged, scope, resolution }

/-- Settles a document without its development imports. -/
def settleDocument (folder : String) (document : DataflowDocument) (loader : Package.Loader) :
    Except Error Settled := do
  let dataflow ← (Lowering.dataflow document).mapError Error.lowering
  let (packages, imports) ← (fetch folder dataflow.imports [] false).outcome loader
  settleDataflow { dataflow with imports } packages

variable {folder : String} {loader : Package.Loader} {result : Result}

theorem exists_settled_of_finishDataflow {dataflow : Dataflow} {topics : List Topic}
    {imports : List Import} {packages : List Package}
    (h : finishDataflow (dataflow.withDevelopment topics imports) packages = .ok result) :
    ∃ settled services, settleDataflow dataflow packages = .ok settled ∧
      Inference.inferAll (settled.definition.withDevelopment topics imports) = .ok services ∧
      result = settled.result topics imports services := by
  obtain ⟨_, _, scope, _, services, hresolve, hscope, -, hstates, hservices, rfl⟩ :=
    finishDataflow_eq_ok_iff.mp h
  rw [Dataflow.resolveDataflow_withDevelopment] at hresolve
  obtain ⟨⟨merged, resolution⟩, hmerged, heq⟩ := map_eq_ok_iff.mp hresolve
  cases heq
  rw [Dataflow.state_resolveDataflow_withDevelopment] at hstates
  rcases hdefinition : State.resolveDataflow scope.shape? merged with ⟨definition, errors⟩
  dsimp only at hstates
  rw [hdefinition] at hstates
  cases hstates
  refine ⟨⟨definition, scope, resolution⟩, services, ?_, hservices, rfl⟩
  refine bind_eq_ok_iff.mpr ⟨(merged, resolution), mapError_eq_ok_iff.mpr hmerged, ?_⟩
  refine bind_eq_ok_iff.mpr ⟨scope, mapError_eq_ok_iff.mpr hscope, ?_⟩
  exact bind_eq_ok_iff.mpr ⟨definition, resolveStates_eq_ok_iff.mpr hdefinition, rfl⟩

/-- With development off, a document is settled whatever its development section and its lines are;
the section matters for the topics, the development imports and what is inferred from the topics. -/
theorem exists_settled_of_compileDataflowDocument {document : DataflowDocument}
    (h : (compileDataflowDocument false folder document).outcome loader = .ok result) :
    ∃ settled services, settleDocument folder document.besidesDevelopment loader = .ok settled ∧
      Inference.inferAll (settled.definition.withDevelopment (topicsInForce document)
        (Lowering.developmentImports document.development)) = .ok services ∧
      result = settled.result (topicsInForce document)
        (Lowering.developmentImports document.development) services := by
  obtain ⟨lowered, packages, imports, later, hlowered, hfetch, hfinish⟩ :=
    compileDataflowDocument_eq_ok_iff.mp h
  rw [Lowering.dataflow_eq_map_besidesDevelopment] at hlowered
  obtain ⟨dataflow, hdataflow, rfl⟩ := map_eq_ok_iff.mp hlowered
  obtain ⟨settled, services, hsettled, hservices, rfl⟩ :=
    @exists_settled_of_finishDataflow _ { dataflow with imports } _ _ _ hfinish
  have hfetched : (fetch folder dataflow.imports [] false).outcome loader =
      .ok (packages, imports) :=
    Compile.outcome_eq_ok_iff.mpr ⟨later, run_fetch_eq_ok_iff.mpr (Package.fetch_of_ok hfetch)⟩
  refine ⟨settled, services, ?_, hservices, rfl⟩
  refine bind_eq_ok_iff.mpr ⟨dataflow, mapError_eq_ok_iff.mpr hdataflow, ?_⟩
  exact bind_eq_ok_iff.mpr ⟨(packages, imports), hfetched, hsettled⟩

/-! ### Results -/

namespace Result

/-- The result without its development imports. -/
def besidesDevelopmentImports (result : Result) : Result :=
  match result.content with
  | .dataflow definition services =>
    { result with content := .dataflow { definition with developmentImports := [] } services }
  | .package _ => result

/-- The result without its development imports, its topics and the types inferred from them. -/
def besidesTopics (result : Result) : Result :=
  match result.content with
  | .dataflow definition _ =>
    { result with
      content := .dataflow { definition with topics := [], developmentImports := [] } [] }
  | .package _ => result

end Result

/-- With development off, dataflows whose documents differ in their development sections and in
lines have results that differ in their topics and in what is inferred from them at most. If the
same topics are in force, as they are without topics in the development sections, the results do not
even differ in these. -/
theorem agree_of_development_off {first second : DataflowInput}
    {firstDocument secondDocument : DataflowDocument} {firstResult secondResult : Result}
    (hfirstRead : first.read = .ok firstDocument) (hsecondRead : second.read = .ok secondDocument)
    (hdocuments : firstDocument.besidesDevelopment = secondDocument.besidesDevelopment)
    (hfirst : (first.compile false folder).outcome loader = .ok firstResult)
    (hsecond : (second.compile false folder).outcome loader = .ok secondResult) :
    firstResult.besidesTopics = secondResult.besidesTopics ∧
      (topicsInForce firstDocument = topicsInForce secondDocument →
        firstResult.besidesDevelopmentImports = secondResult.besidesDevelopmentImports) ∧
      ((firstDocument.development.getD {}).topics = [] →
        (secondDocument.development.getD {}).topics = [] →
        firstResult.besidesDevelopmentImports = secondResult.besidesDevelopmentImports) := by
  obtain ⟨_, hread, hfirst⟩ := exists_document_of_compile hfirst
  cases hread.symm.trans hfirstRead
  obtain ⟨_, hread, hsecond⟩ := exists_document_of_compile hsecond
  cases hread.symm.trans hsecondRead
  obtain ⟨settled, services, hsettled, hservices, rfl⟩ :=
    exists_settled_of_compileDataflowDocument hfirst
  obtain ⟨other, otherServices, hother, hotherServices, rfl⟩ :=
    exists_settled_of_compileDataflowDocument hsecond
  rw [hdocuments] at hsettled
  cases hsettled.symm.trans hother
  have hagree (htopics : topicsInForce firstDocument = topicsInForce secondDocument) :
      (settled.result (topicsInForce firstDocument)
        (Lowering.developmentImports firstDocument.development)
        services).besidesDevelopmentImports =
      (settled.result (topicsInForce secondDocument)
        (Lowering.developmentImports secondDocument.development)
        otherServices).besidesDevelopmentImports := by
    -- Services are inferred from the topics, and not from the development imports.
    have hinferred : Except.ok services = Except.ok otherServices :=
      hservices.symm.trans (htopics ▸ hotherServices)
    cases hinferred
    simp only [Result.besidesDevelopmentImports, Settled.result, Dataflow.withDevelopment, htopics]
  refine ⟨rfl, hagree, fun hfirstTopics hsecondTopics ↦ hagree ?_⟩
  rw [Lowering.topicsInForce_of_topics_eq_nil hfirstTopics, hdocuments,
    Lowering.topicsInForce_of_topics_eq_nil hsecondTopics]

/-! ### A document with a type and a topic -/

def copyEntry : Document.ServiceEntry :=
  { sources := [{ kind := "topic", id := "words" }], sinks := [{ kind := "topic", id := "words" }] }

def copyService : Service :=
  { name := "copy", sources := [{ kind := .topic, id := "words" }],
    sinks := [{ kind := .topic, id := "words" }] }

/-- The type stands on this line. -/
def wordDocument (line : Nat) (development : Option DevelopmentEntry) : DataflowDocument :=
  { apiVersion := "0.6.0"
    header := { owner := "example", name := "flow", version := "0.1.0" }
    types := [("word", .plain { line } "string")]
    topics := [("words", { value := { type := "word" } })]
    development
    services := [("copy", copyEntry)] }

def wordType : NamedType := { name := "word", shape := .primitive .string }

def wordTopics (type : String) : List Topic :=
  [{ id := "words", name := "words", value := { type, converter := "json" } }]

def wordDefinition : Dataflow :=
  { apiVersion := "0.6.0"
    header := { owner := "example", name := "flow", version := "0.1.0" }
    types := [wordType]
    services := [copyService] }

def wordResult (type : String) (developmentImports : List Import) : Result :=
  { content := .dataflow (wordDefinition.withDevelopment (wordTopics type) developmentImports)
      [{ name := "copy", input := { value := type }, output := { value := type } }]
    scope := { types := [wordType] }
    resolution := { imports := [], resolved := [] } }

theorem dataflow_wordDocument :
    Lowering.dataflow (wordDocument 0 none) =
      .ok (wordDefinition.withDevelopment (wordTopics "word") []) := by
  decide +kernel

theorem run_fetch_nil (folder : String) (development : List Import) (loader : Package.Loader) :
    (Package.fetch folder [] development false).run.run loader = (.ok ([], []), loader) := by
  rw [Package.fetch]
  refine run_bind_eq_ok_iff.mpr ⟨loader, loader, rfl, ?_⟩
  refine run_bind_eq_ok_iff.mpr ⟨{}, loader, ?_, rfl⟩
  rw [show Import.effective [] development false = [] from rfl, Package.followAll]
  rfl

theorem toScope_wordType :
    (({} : Declarations).insertAll [wordType]).toScope = .ok { types := [wordType] } := by
  decide +kernel

theorem resolveDataflow_wordDefinition :
    Package.resolveDataflow wordDefinition [] =
      .ok (wordDefinition, { imports := [], resolved := [] }) :=
  eq_ok_of_toOption (by decide +kernel)

/-- The topic may have either of these types. -/
theorem finishDataflow_wordDefinition {type : String} (htype : type ∈ ["word", "u32"])
    (imports : List Import) :
    finishDataflow (wordDefinition.withDevelopment (wordTopics type) imports) [] =
      .ok (wordResult type imports) := by
  have hresolve :
      Package.resolveDataflow (wordDefinition.withDevelopment (wordTopics type) imports) [] =
        .ok (wordDefinition.withDevelopment (wordTopics type) imports,
          { imports := [], resolved := [] }) := by
    rw [Dataflow.resolveDataflow_withDevelopment, resolveDataflow_wordDefinition]
    rfl
  have hvalid : Validation.validateDataflow { types := [wordType] }
      (wordDefinition.withDevelopment (wordTopics type) imports) = .ok () := by
    rw [Dataflow.validateDataflow_withDevelopment]
    rcases List.mem_pair.mp htype with rfl | rfl
    · rfl
    · rfl
  have hinferred : Inference.inferAll (wordDefinition.withDevelopment (wordTopics type) imports) =
      .ok (wordResult type imports).services := by
    rcases List.mem_pair.mp htype with rfl | rfl
    · rfl
    · rfl
  exact finishDataflow_eq_ok_iff.mpr
    ⟨_, _, _, _, _, hresolve, toScope_wordType, hvalid, rfl, hinferred, rfl⟩

theorem compile_wordDocument {line : Nat} {development : Option DevelopmentEntry} {type : String}
    (htype : type ∈ ["word", "u32"])
    (htopics : topicsInForce (wordDocument line development) = wordTopics type) :
    ((DataflowInput.document (wordDocument line development)).compile false "/work").outcome
      { tree := {} } = .ok (wordResult type (Lowering.developmentImports development)) := by
  refine compileDataflowDocument_eq_ok_iff.mpr
    ⟨wordDefinition.withDevelopment (wordTopics type) (Lowering.developmentImports development), [],
      [], { tree := {} }, ?_, run_fetch_nil _ _ _, finishDataflow_wordDefinition htype _⟩
  have hdocument : (wordDocument line development).besidesDevelopment = wordDocument 0 none := rfl
  rw [Lowering.dataflow_eq_map_besidesDevelopment, hdocument, dataflow_wordDocument, htopics]
  rfl

theorem topicsInForce_wordDocument {line : Nat} {development : Option DevelopmentEntry}
    (entry : Document.TopicEntry) {topic : Topic}
    (h : Lowering.effectiveTopics (wordDocument line development) = [("words", entry)])
    (htopic : Lowering.lowerTopic (Lowering.defaultConverter (wordDocument line development))
      "words" entry = topic) :
    topicsInForce (wordDocument line development) = [topic] := by
  rw [Lowering.topicsInForce, h, Text.sortByName, List.mergeSort_singleton,
    List.map_singleton, htopic]

/-- A development section with an import and a converter, but no topics. -/
def importingSection : DevelopmentEntry :=
  { converter := "raw"
    imports :=
      [{ package := { owner := "example", name := "text", version := "0.1.0" },
         path := "../local" }] }

/-- The development section moves the type by some lines. -/
theorem agree_of_development_off_importingSection : ∃ first second,
    ((DataflowInput.document (wordDocument 14 (some importingSection))).compile false
      "/work").outcome { tree := {} } = .ok first ∧
    ((DataflowInput.document (wordDocument 9 none)).compile false "/work").outcome { tree := {} } =
      .ok second ∧
    first.besidesDevelopmentImports = second.besidesDevelopmentImports := by
  have hfirstTopics : topicsInForce (wordDocument 14 (some importingSection)) = wordTopics "word" :=
    topicsInForce_wordDocument { value := { type := "word" } } rfl rfl
  have hsecondTopics : topicsInForce (wordDocument 9 none) = wordTopics "word" :=
    topicsInForce_wordDocument { value := { type := "word" } } rfl rfl
  have hfirst := compile_wordDocument List.mem_cons_self hfirstTopics
  have hsecond := compile_wordDocument List.mem_cons_self hsecondTopics
  have hagree := agree_of_development_off rfl rfl
    (show (wordDocument 14 (some importingSection)).besidesDevelopment =
      (wordDocument 9 none).besidesDevelopment from rfl) hfirst hsecond
  exact ⟨_, _, hfirst, hsecond, hagree.2.2 rfl rfl⟩

/-- A development section with another type for the topic. -/
def retypingSection : DevelopmentEntry := { topics := [("words", { value := { type := "u32" } })] }

/-- The topic has the type of the development section, though development is off. -/
theorem development_topic_in_force : ∃ first second,
    ((DataflowInput.document (wordDocument 16 (some retypingSection))).compile false
      "/work").outcome { tree := {} } = .ok first ∧
    ((DataflowInput.document (wordDocument 9 none)).compile false "/work").outcome { tree := {} } =
      .ok second ∧
    (wordDocument 16 (some retypingSection)).besidesDevelopment =
      (wordDocument 9 none).besidesDevelopment ∧
    first.besidesDevelopmentImports ≠ second.besidesDevelopmentImports := by
  have hfirstTopics : topicsInForce (wordDocument 16 (some retypingSection)) = wordTopics "u32" :=
    topicsInForce_wordDocument { value := { type := "u32" } } rfl rfl
  have hsecondTopics : topicsInForce (wordDocument 9 none) = wordTopics "word" :=
    topicsInForce_wordDocument { value := { type := "word" } } rfl rfl
  have hfirst := compile_wordDocument (List.mem_cons_of_mem _ List.mem_cons_self) hfirstTopics
  have hsecond := compile_wordDocument List.mem_cons_self hsecondTopics
  refine ⟨_, _, hfirst, hsecond, rfl, fun h ↦ ?_⟩
  exact absurd (congrArg Result.services h) (by decide)

end Compiler

end FlowSpec
