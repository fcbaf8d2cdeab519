import FlowSpec.Proofs.Compiler.Types
import FlowSpec.Proofs.Package.Crawl
import FlowSpec.Proofs.State.Validity

/-!
The states of compiled steps against the pools of their services. An imported function brings states
that were settled in the scope of its package; they join the pool, which is validated and settled
once more in the scope of the dataflow. So the entry of a pool always has a value, and it is what
the scope of the dataflow makes of the state of the step. The two are equal unless the package left
the value of the state open, for packages that are imported are not validated.
-/

set_option autoImplicit false

namespace FlowSpec

open Outcome

namespace Package

open State

variable {imports : List Import} {packages : List Package}

/-! ### Functions that are adopted -/

/-- A step that calls an imported function has the states of the function, and any other has states
that are not resolved. -/
structure Adopted (imports : List Import) (packages : List Package) (step : Step) : Prop where
  imported : ∀ function, importedFunction step.uses imports packages = .ok function →
    step.states = function.step.states
  inline : (∀ function, importedFunction step.uses imports packages ≠ .ok function) →
    ∀ state ∈ step.states, state.resolved = none

theorem adopted_adoptedStep {step : Step} (h : ∀ state ∈ step.states, state.resolved = none) :
    Adopted imports packages (adoptedStep imports packages step) := by
  refine ⟨fun function hfunction ↦ ?_, fun hnone ↦ ?_⟩
  · rw [uses_adoptedStep] at hfunction
    rw [adoptedStep, hfunction]
  · rw [uses_adoptedStep] at hnone
    cases hfunction : importedFunction step.uses imports packages with
    | ok function => exact absurd hfunction (hnone function)
    | error error =>
      rw [adoptedStep, hfunction]
      exact h

theorem prepared_of_adoptFunctions {service adopted : Service}
    (h : adoptFunctions imports packages service = .ok adopted)
    (hlinked : ∀ package ∈ packages, package.Linked)
    (hentries : ∀ entry ∈ service.states, Fresh entry)
    (hsteps : Lowering.Unresolved service.operations) :
    Prepared adopted ∧ ∀ operation ∈ adopted.operations,
      Adopted imports packages operation.step := by
  obtain ⟨hadopted, hjoined⟩ := adopted_of_adoptFunctions h
  have hoperations : adopted.operations =
      service.operations.map (Operation.mapStep fun _ step ↦
        adoptedStep imports packages step) := by
    rw [hadopted]
    exact Service.operations_mapSteps _ service
  refine ⟨⟨hjoined.fresh hentries, fun operation hoperation state hstate typed hresolved ↦ ?_⟩,
    fun operation hoperation ↦ ?_⟩
  · rw [hoperations] at hoperation
    obtain ⟨before, hbefore, rfl⟩ := List.mem_map.mp hoperation
    change state ∈ (adoptedStep imports packages before.step).states at hstate
    cases hfunction : importedFunction before.step.uses imports packages with
    | error error =>
      rw [adoptedStep, hfunction] at hstate
      rw [hsteps before hbefore state hstate] at hresolved
      cases hresolved
    | ok function =>
      rw [adoptedStep, hfunction] at hstate
      have hbrought : state ∈ adoptedStates imports packages before.step := by
        rwa [adoptedStates, hfunction]
      obtain ⟨found, hfound, hentry⟩ :=
        hjoined.found state (List.mem_flatMap.mpr ⟨before, hbefore, hbrought⟩)
      obtain ⟨named, hnamed, hname⟩ := named_of_importedFunction hfunction hlinked state hstate
      rw [hresolved, Option.some.injEq] at hfound hnamed
      subst hfound hnamed
      exact ⟨hname, hentry⟩
  · rw [hoperations] at hoperation
    obtain ⟨before, hbefore, rfl⟩ := List.mem_map.mp hoperation
    exact adopted_adoptedStep (hsteps before hbefore)

/-- A resolved step has the entries of the pool exactly if it calls no imported function that has a
state without a value. -/
theorem Adopted.shares_iff {lookup : String → Option Shape} {service : Service}
    {before operation : Operation} (h : Adopted imports packages before.step)
    (hlinked : ∀ package ∈ packages, package.Linked)
    (hresolves : ResolvesStep lookup service before operation) :
    (∀ state ∈ operation.step.states, service.Shares state) ↔
      ∀ function, importedFunction operation.step.uses imports packages = .ok function →
        ∀ state ∈ function.step.states, ∀ typed, state.resolved = some typed →
        typed.type.value.isResolved := by
  rw [hresolves.uses]
  by_cases hcalls : ∃ function, importedFunction before.step.uses imports packages = .ok function
  · obtain ⟨function, hfunction⟩ := hcalls
    have hnamed := named_of_importedFunction hfunction hlinked
    have hbrought := h.imported function hfunction
    -- the states that a function brings along are resolved already, so they are kept
    have hkept : operation.step.states = function.step.states := by
      rw [← hbrought]
      refine hresolves.kept fun state hstate ↦ ?_
      obtain ⟨typed, htyped, -⟩ := hnamed state (hbrought ▸ hstate)
      rw [htyped, Option.isSome_some]
    constructor
    · intro hshares other hother state hstate typed htyped
      rw [hfunction, Except.ok.injEq] at hother
      subst hother
      obtain ⟨found, hfound, hvalue, -⟩ := hshares state (hkept ▸ hstate)
      rw [htyped, Option.some.injEq] at hfound
      exact hfound ▸ hvalue
    · intro hvalues state hstate
      obtain ⟨typed, htyped, -⟩ := hnamed state (hkept ▸ hstate)
      exact (hresolves.covers state hstate).shares htyped
        (hvalues function hfunction state (hkept ▸ hstate) typed htyped)
  · constructor
    · intro _ function hfunction
      exact absurd ⟨function, hfunction⟩ hcalls
    · intro _
      exact hresolves.shares (h.inline fun function hfunction ↦ hcalls ⟨function, hfunction⟩)

/-! ### Packages that are fetched -/

/-- What a loader remembers are packages that were lowered. -/
def Loader.RemembersLowered (loader : Loader) : Prop :=
  ∀ entry ∈ loader.cache, ∃ document, Lowering.package document = .ok entry.2

theorem Loader.RemembersLowered.exists_document {loader : Loader} (h : loader.RemembersLowered)
    {folder : String} {package : Package} (hpackage : loader.package? folder = some package) :
    ∃ document, Lowering.package document = .ok package := by
  unfold Loader.package? at hpackage
  dsimp only at hpackage
  cases hcached : loader.cache.lookup (Path.join [folder, loader.file]) with
  | some cached =>
    rw [hcached] at hpackage
    cases hpackage
    exact h _ (mem_of_lookup_eq_some hcached)
  | none =>
    rw [hcached] at hpackage
    cases hread : loader.tree.read (Path.join [folder, loader.file]) with
    | error error => simp [hread] at hpackage
    | ok text =>
      simp only [hread] at hpackage
      cases htext : ofText (Path.join [folder, loader.file]) text with
      | error error => simp [htext, Except.toOption] at hpackage
      | ok lowered =>
        rw [htext] at hpackage
        cases hpackage
        obtain ⟨parsed, -, hlowered⟩ := bind_eq_ok_iff.mp htext
        exact ⟨parsed.document, mapError_eq_ok_iff.mp hlowered⟩

theorem Loader.RemembersLowered.unlinked_of_fetch {loader later : Loader}
    (h : loader.RemembersLowered) {folder : String} {used development : List Import}
    {useDevelopment : Bool}
    (hfetch : (fetch folder imports development useDevelopment).outcome loader =
      (.ok (packages, used), later)) :
    ∀ package ∈ packages, package.Unlinked := by
  obtain ⟨outcome, final, hcrawl, houtcome⟩ :=
    crawl_fetch loader folder imports development useDevelopment
  rw [houtcome] at hfetch
  obtain ⟨found, rfl, hfound⟩ := map_eq_ok_iff.mp (congrArg Prod.fst hfetch)
  cases hfound
  obtain ⟨places, hplaces, hcomplete, -⟩ := hcrawl.complete
  intro package hpackage
  rw [hplaces] at hpackage
  obtain ⟨place, hplace, rfl⟩ := List.mem_map.mp hpackage
  obtain ⟨document, hdocument, heq⟩ := hcomplete.holds place hplace
  obtain ⟨_, hlowered⟩ := h.exists_document hdocument
  rw [heq]
  have hunresolved := Lowering.unresolved_of_package hlowered
  exact hunresolved

end Package

namespace Compiler

open State

/-! ### Compilation -/

variable {useDevelopment : Bool} {folder : String} {loader : Package.Loader} {input : DataflowInput}
  {result : Result}

/-- The steps of a finished dataflow are steps whose imported functions were adopted, resolved in
the scope of the result. -/
theorem resolvesSteps_of_finishDataflow {dataflow : Dataflow} {packages : List Package}
    (h : finishDataflow dataflow packages = .ok result)
    (hunlinked : ∀ package ∈ packages, package.Unlinked)
    (hentries : ∀ service ∈ dataflow.services, ∀ entry ∈ service.states, Fresh entry)
    (hsteps : ∀ service ∈ dataflow.services, Lowering.Unresolved service.operations) :
    (∀ package ∈ result.packages, package.Linked) ∧
    ∃ definition typings, result.content = .dataflow definition typings ∧
      ∀ service ∈ definition.services, ∀ operation ∈ service.operations, ∃ before,
        Package.Adopted definition.imports result.packages before.step ∧
        ResolvesStep result.scope.shape? service before operation := by
  obtain ⟨_, _, scope, resolved, typings, hresolve, -, hvalid, hstates, -, rfl⟩ :=
    finishDataflow_eq_ok_iff.mp h
  obtain ⟨resolution, hresolution, hresolve⟩ := bind_eq_ok_iff.mp hresolve
  obtain ⟨⟨types, settled⟩, -, hresolve⟩ := bind_eq_ok_iff.mp hresolve
  obtain ⟨adopted, hadopted, hresolve⟩ := bind_eq_ok_iff.mp hresolve
  cases hresolve
  have hlinked := Package.linked_of_resolve hresolution hunlinked
  have hknown := known_of_validateDataflow hvalid
  refine ⟨hlinked, resolved, typings, rfl, ?_⟩
  obtain ⟨hfaultless, heq⟩ :=
    resolveDataflow_spec scope.shape? { dataflow with types, services := adopted }
  replace hfaultless := hfaultless (congrArg Prod.snd hstates)
  rw [heq hfaultless] at hstates
  cases hstates
  intro service hservice operation hoperation
  obtain ⟨prepared, hprepared, rfl⟩ := List.mem_map.mp hservice
  obtain ⟨original, horiginal, hadopt⟩ :=
    exists_left_of_forall₂ (mapM_eq_ok_iff.mp hadopted) hprepared
  obtain ⟨hprepares, hadopts⟩ := Package.prepared_of_adoptFunctions hadopt hlinked
    (hentries original horiginal) (hsteps original horiginal)
  obtain ⟨before, hbefore, hresolves⟩ :=
    hfaultless.exists_resolves hknown hprepared hprepares hoperation
  exact ⟨before, hadopts before hbefore, hresolves⟩

/-- Every state of a compiled step is resolved, and the pool of the service has what the scope of
the dataflow makes of it, with a value. A step has the entries of the pool themselves exactly if it
calls no imported function that has a state without a value. -/
theorem steps_share_pool_iff (hloader : loader.RemembersLowered)
    (h : (input.compile useDevelopment folder).outcome loader = .ok result) :
    ∃ definition typings, result.content = .dataflow definition typings ∧
      ∀ service ∈ definition.services, ∀ operation ∈ service.operations,
        (∀ state ∈ operation.step.states, service.Covers result.scope.shape? state) ∧
        ((∀ state ∈ operation.step.states, service.Shares state) ↔
          ∀ function,
            Package.importedFunction operation.step.uses definition.imports result.packages =
              .ok function → ∀ state ∈ function.step.states, ∀ typed, state.resolved = some typed →
                typed.type.value.isResolved) := by
  obtain ⟨document, -, hdocument⟩ := exists_document_of_compile h
  obtain ⟨lowered, packages, imports, later, hlowered, hfetch, hfinish⟩ :=
    compileDataflowDocument_eq_ok_iff.mp hdocument
  have hunlinked := hloader.unlinked_of_fetch hfetch
  have hservices (service : Service) (hservice : service ∈ lowered.services) :
      (∀ entry ∈ service.states, Fresh entry) ∧ Lowering.Unresolved service.operations := by
    obtain ⟨item, -, hitem⟩ :=
      exists_left_of_forall₂ (Lowering.loweredServices_of_dataflow hlowered) hservice
    exact ⟨hitem.entries, hitem.steps⟩
  obtain ⟨hlinked, definition, typings, hcontent, hsteps⟩ :=
    resolvesSteps_of_finishDataflow hfinish hunlinked
      (fun service hservice ↦ (hservices service hservice).1)
      fun service hservice ↦ (hservices service hservice).2
  refine ⟨definition, typings, hcontent, fun service hservice operation hoperation ↦ ?_⟩
  obtain ⟨before, hadopted, hresolves⟩ := hsteps service hservice operation hoperation
  exact ⟨hresolves.covers, hadopted.shares_iff hlinked hresolves⟩

/-! ### A dataflow that counts -/

/-- A package with a function that counts; it may declare the type of the amounts that it keeps, or
leave it out. -/
def countingDocument (declared : Bool) : Document.PackageDocument :=
  { apiVersion := "0.6.0"
    header := { owner := "shop", name := "counting", version := "1.0.0" }
    types := if declared then [("amount", .plain {} "u32")] else []
    states := [("totals", .keyedState {} (.plain {} "string") (.plain {} "amount"))]
    functions :=
      [{ name := "add"
         step :=
           { operator := "map", uses := "add", states := ["totals"]
             inputs := [{ name := "word", type := "string" }]
             output := some { type := "string" } } }] }

def amountType : NamedType := { name := "amount", shape := .primitive .u32 }

def countingHeader : Header := { owner := "shop", name := "counting", version := "1.0.0" }

/-- The step that the function is, with its state. -/
def addStep (resolved : Option TypedState) : Step :=
  { uses := "add", inputs := [{ name := "word", type := "string" }],
    output := some { value := "string" }
    states := [{ name := "totals", resolved }], code := { language := "rust" } }

def totals (value : StateValue) : TypedState :=
  { name := "totals", type := { key := "string", value } }

def countingPackage (declared : Bool) : Package :=
  { apiVersion := "0.6.0"
    header := countingHeader
    types := if declared then [amountType] else []
    states := [totals (.unresolved "amount")]
    functions := [{ operator := .map, step := addStep none }] }

/-- The value of the state in the scope of its package. -/
def countedValue (declared : Bool) : StateValue := if declared then .u32 else .unresolved "amount"

def resolvedCounting (declared : Bool) : Package :=
  { countingPackage declared with
    states := [totals (countedValue declared)]
    functions := [{ operator := .map, step := addStep (some (totals (countedValue declared))) }] }

def countingImport : Import :=
  { package := countingHeader, path := "counting", functions := [{ name := "add" }] }

/-- The package has been read before. -/
def countingLoader (declared : Bool) : Package.Loader :=
  { tree := {}, cache := [("/work/counting/sdf-package.yaml", countingPackage declared)] }

def countEntry : Document.ServiceEntry :=
  { sources := [{ kind := "topic", id := "words" }],
    transforms := [{ operator := "map", uses := "add" }]
    sinks := [{ kind := "topic", id := "words" }] }

def countDocument : Document.DataflowDocument :=
  { apiVersion := "0.6.0"
    header := { owner := "example", name := "flow", version := "0.1.0" }
    imports := [countingImport]
    types := [("amount", .plain {} "u32")]
    topics := [("words", { value := { type := "string" } })]
    services := [("count", countEntry)] }

def countService (step : Step) (states : List PoolState) : Service :=
  { name := "count", sources := [{ kind := .topic, id := "words" }]
    sinks := [{ kind := .topic, id := "words" }]
    transforms := [{ operator := .map, step }], states }

def countDefinition (step : Step) (states : List PoolState) : Dataflow :=
  { apiVersion := "0.6.0"
    header := { owner := "example", name := "flow", version := "0.1.0" }
    imports := [countingImport]
    types := [amountType]
    topics :=
      [{ id := "words", name := "words", value := { type := "string", converter := "json" } }]
    services := [countService step states] }

def calledStep : Step := { uses := "add", code := { language := "rust" } }

def adoptedAdd (declared : Bool) : Step :=
  { addStep (some (totals (countedValue declared))) with
    imported := some { package := countingHeader, name := "add", path := "counting" } }

def countScope : Scope := { types := [amountType, (totals .u32).namedType] }

def countResolution (declared : Bool) : Package.Resolution :=
  { imports := [countingImport], resolved := [resolvedCounting declared] }

def countTyping : Inference.ServiceTyping :=
  { name := "count", input := { value := "string" }, output := { value := "string" }
    steps :=
      [{ position := "transforms[0]", operator := .map, uses := "add"
         input := { value := "string" }, output := { value := "string" } }] }

def countResult (declared : Bool) : Result :=
  { content := .dataflow (countDefinition (adoptedAdd declared) [ownEntry (totals .u32)])
      [countTyping]
    scope := countScope
    resolution := countResolution declared }

theorem package_countingDocument (declared : Bool) :
    Lowering.package (countingDocument declared) = .ok (countingPackage declared) := by
  cases declared <;> decide +kernel

theorem dataflow_countDocument :
    Lowering.dataflow countDocument = .ok (countDefinition calledStep []) := by
  decide +kernel

theorem outcome_fetch_counting (declared : Bool) :
    (Package.fetch "/work" [countingImport] [] false).outcome (countingLoader declared) =
      (.ok ([countingPackage declared], [countingImport]), countingLoader declared) := by
  have hread : (Package.read countingHeader "/work/counting").outcome (countingLoader declared) =
      (.ok (countingPackage declared), countingLoader declared) := by
    cases declared <;> rfl
  have hcrawl : Package.Crawl false [] "/work" [countingImport] {} (countingLoader declared)
      (.ok { packages := [countingPackage declared], keys := [countingHeader.key] })
      (countingLoader declared) :=
    .entered rfl hread List.not_mem_nil .done .done
  obtain ⟨outcome, final, hother, hfetch⟩ :=
    Package.crawl_fetch (countingLoader declared) "/work" [countingImport] [] false
  obtain ⟨rfl, rfl⟩ := hother.unique hcrawl
  exact hfetch

theorem resolve_counting (declared : Bool) :
    Package.resolve [countingImport] [countingPackage declared] =
      .ok (countResolution declared) := by
  have hsort : Package.sort (Package.indexPackages [countingPackage declared]) [countingImport] =
      .ok [countingPackage declared] := by
    cases declared <;> cbv
  have hmerged : Package.resolveInOrder [countingPackage declared] =
      .ok [resolvedCounting declared] := by
    cases declared with
    | false => exact eq_ok_of_toOption (by decide +kernel)
    | true => cbv
  exact bind_eq_ok_iff.mpr ⟨_, hsort, bind_eq_ok_iff.mpr ⟨_, hmerged, rfl⟩⟩

theorem resolveDataflow_count (declared : Bool) :
    Package.resolveDataflow (countDefinition calledStep []) [countingPackage declared] =
      .ok (countDefinition (adoptedAdd declared) [ownEntry (totals (countedValue declared))],
        countResolution declared) := by
  have hpackages : (countResolution declared).packages = [resolvedCounting declared] :=
    List.mergeSort_singleton _
  refine bind_eq_ok_iff.mpr ⟨_, resolve_counting declared, ?_⟩
  rw [hpackages]
  have hmerge : Package.mergeTypesAndStates [amountType] [] [countingImport]
      [resolvedCounting declared] = .ok ([amountType], []) := by
    cases declared with
    | false => exact eq_ok_of_toOption (by decide +kernel)
    | true => cbv
  have hadopt : Package.adoptFunctions [countingImport] [resolvedCounting declared]
      (countService calledStep []) =
      .ok (countService (adoptedAdd declared) [ownEntry (totals (countedValue declared))]) := by
    cases declared <;> rfl
  exact bind_eq_ok_iff.mpr ⟨_, hmerge,
    bind_eq_ok_iff.mpr ⟨_, bind_eq_ok_iff.mpr ⟨_, hadopt, rfl⟩, rfl⟩⟩

theorem finishDataflow_count (declared : Bool) :
    finishDataflow (countDefinition calledStep []) [countingPackage declared] =
      .ok (countResult declared) := by
  have hscope :
      (countDefinition (adoptedAdd declared) [ownEntry (totals (countedValue declared))]).scope =
      .ok countScope := by
    cases declared <;> cbv
  have hvalid : Validation.validateDataflow countScope
      (countDefinition (adoptedAdd declared) [ownEntry (totals (countedValue declared))]) =
        .ok () := by
    cases declared <;> rfl
  have hstates : State.resolveDataflow countScope.shape?
      (countDefinition (adoptedAdd declared) [ownEntry (totals (countedValue declared))]) =
        (countDefinition (adoptedAdd declared) [ownEntry (totals .u32)], []) := by
    cases declared <;> rfl
  have hinferred : Inference.inferAll
      (countDefinition (adoptedAdd declared) [ownEntry (totals .u32)]) = .ok [countTyping] := by
    cases declared <;> rfl
  exact finishDataflow_eq_ok_iff.mpr
    ⟨_, _, _, _, _, resolveDataflow_count declared, hscope, hvalid, hstates, hinferred, rfl⟩

theorem compile_countDocument (declared : Bool) :
    ((DataflowInput.document countDocument).compile false "/work").outcome
      (countingLoader declared) = .ok (countResult declared) :=
  compileDataflowDocument_eq_ok_iff.mpr ⟨countDefinition calledStep [], [countingPackage declared],
    [countingImport], countingLoader declared, dataflow_countDocument,
    outcome_fetch_counting declared, finishDataflow_count declared⟩

theorem remembersLowered_countingLoader (declared : Bool) :
    (countingLoader declared).RemembersLowered :=
  List.forall_mem_singleton.mpr ⟨countingDocument declared, package_countingDocument declared⟩

/-- Where the package declares the type of its amounts, the step has the entry of the pool. -/
theorem steps_share_pool_iff_declared :
    ((DataflowInput.document countDocument).compile false "/work").outcome (countingLoader true) =
        .ok (countResult true) ∧
      (countingLoader true).RemembersLowered ∧
      (countService (adoptedAdd true) [ownEntry (totals .u32)]).Shares
        { name := "totals", resolved := some (totals .u32) } := by
  have hpackages : (countResult true).packages = [resolvedCounting true] :=
    List.mergeSort_singleton _
  obtain ⟨definition, typings, hcontent, hsteps⟩ :=
    steps_share_pool_iff (remembersLowered_countingLoader true) (compile_countDocument true)
  cases hcontent
  obtain ⟨-, hshares⟩ := hsteps _ List.mem_cons_self ⟨.map, adoptedAdd true⟩ List.mem_cons_self
  refine ⟨compile_countDocument true, remembersLowered_countingLoader true, ?_⟩
  refine hshares.mpr (fun function hfunction state hstate typed htyped ↦ ?_) _ List.mem_cons_self
  rw [hpackages] at hfunction
  cases hfunction
  obtain rfl := List.mem_singleton.mp hstate
  cases htyped
  rfl

/-- Where the package leaves the type out, the dataflow compiles all the same. The state of the step
has no value, and is not the entry of the pool. -/
theorem adopted_state_left_open : ∃ result definition typings,
    ((DataflowInput.document countDocument).compile false "/work").outcome (countingLoader false) =
      .ok result ∧
    (countingLoader false).RemembersLowered ∧ result.content = .dataflow definition typings ∧
    ∃ service ∈ definition.services, ∃ operation ∈ service.operations,
      ∃ state ∈ operation.step.states, state.resolved = some (totals (.unresolved "amount")) ∧
        service.pooled? state.name = some (totals .u32) ∧ ¬ service.Shares state := by
  refine ⟨_, _, _, compile_countDocument false, remembersLowered_countingLoader false, rfl,
    countService (adoptedAdd false) [ownEntry (totals .u32)], List.mem_cons_self,
    ⟨.map, adoptedAdd false⟩, List.mem_cons_self, _, List.mem_cons_self, rfl, rfl, ?_⟩
  rintro ⟨typed, hresolved, hvalue, -⟩
  cases hresolved
  cases hvalue

end Compiler

end FlowSpec
