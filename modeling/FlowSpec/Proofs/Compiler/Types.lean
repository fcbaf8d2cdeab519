import FlowSpec.Compiler
import FlowSpec.Proofs.Lowering.Document
import FlowSpec.Proofs.Package.Merge
import FlowSpec.Proofs.Scope.Settling
import FlowSpec.Proofs.State.Steps

/-!
No declared type is lost on the way through the compiler. What a document declares is listed by its
definition, merging keeps it, sealing settles it, and a state takes its place only if it has its
name. The exception are names of primitive types: they are always in scope, so a type that is
declared under one of them is not stored.
-/

set_option autoImplicit false

namespace FlowSpec

open Outcome

variable {scope : Scope} {type : NamedType} {states : List NamedType}

/-! ### States in a scope -/

namespace Declarations

/-- Where states join types, a name that stood for nothing can only come to stand for a state. -/
theorem exists_state_of_valueShape {types : List NamedType} {name : String} {shape : Shape}
    (hunknown : lookupType types name = none) (hforeign : Primitive.ofName? name = none)
    (h : TypedState.valueShape ((({} : Declarations).insertAll types).insertAll states).shape?
      name = some shape) : ∃ state ∈ states, state.shape = shape := by
  have htidy := (Tidy.empty.insertAll types).insertAll states
  rw [TypedState.valueShape, hforeign, Option.map_none, Option.orElse_eq_or, Option.or_none, shape?,
    Option.map_eq_some_iff] at h
  obtain ⟨found, hfound, rfl⟩ := h
  obtain ⟨hmem, hname⟩ := (lookupType_eq_some_iff htidy.nodup).mp hfound
  obtain ⟨hnew, hnew'⟩ := lookupType_eq_none_iff.mp hunknown
  have hold : found ∉ types := by
    intro hold
    have hmem := List.mem_map_of_mem (f := NamedType.name) hold
    rcases hname with hname | ⟨-, hname⟩
    · exact hnew (hname ▸ hmem)
    · exact hnew' (hname ▸ hmem)
  rcases mem_of_mem_insertAll hmem with hmem | hmem
  · exact absurd ((mem_of_mem_insertAll hmem).resolve_left List.not_mem_nil) hold
  · exact ⟨found, hmem, rfl⟩

/-- A sealed type is found as it is in the scope that it shares with states, unless one of them has
its name. No state can be the value of another, so a value that was left open stays open. -/
theorem mem_toScope_insertAll {merged : Scope}
    (hmerged : merged.Sealed) (hstates : ∀ state ∈ states, ∃ keyed, state.shape = .keyedState keyed)
    (hscope : ((({} : Declarations).insertAll merged.types).insertAll states).toScope = .ok scope)
    (htype : type ∈ merged.types) (hname : type.name ∉ states.map NamedType.name) :
    type ∈ scope.types := by
  have htidy := (Tidy.empty.insertAll merged.types).insertAll states
  have hdeclared : ((({} : Declarations).insertAll merged.types).insertAll states).declared?
      type.name = some type := by
    rw [declared?_insertAll_of_notMem hname]
    exact declared?_insertAll_of_mem hmerged.nodup htype (hmerged.foreign htype)
  have hmem := (htidy.declared?_eq_some_iff.mp hdeclared).1
  obtain ⟨result, hresult, hsettled⟩ := exists_settled_of_mem hscope hmem
  suffices hsame : result = type from hsame ▸ hresult
  rcases settle_eq_ok_iff.mp hsettled.settles with ⟨-, hsame⟩ | ⟨state, typed, hshape, htyped, rfl⟩
  · exact hsame
  rcases TypedState.resolve_eq_ok_iff.mp htyped with ⟨rfl, -⟩ |
    ⟨name, shape, value, hopen, hvalue, hheld, -⟩
  · rw [← hshape]
  exfalso
  have hopenShape : type.shape = .keyedState { key := state.key, value := .unresolved name } := by
    rw [hshape, ← hopen]
  obtain ⟨hunknown, hforeign⟩ := hmerged.lookup?_of_open htype hopenShape
  obtain ⟨other, hother, rfl⟩ := exists_state_of_valueShape hunknown hforeign hvalue
  obtain ⟨keyed, hkeyed⟩ := hstates other hother
  rw [hkeyed] at hheld
  cases hheld

end Declarations

/-- In a sealed scope a keyed state that passes its check has a value. -/
theorem Scope.Sealed.isResolved_of_checkType {state : KeyedState}
    (h : scope.Sealed) (htype : type ∈ scope.types) (hshape : type.shape = .keyedState state)
    (hchecked : scope.checkType type = none) : state.value.isResolved := by
  cases hvalue : state.value with
  | u32 => rfl
  | row columns => rfl
  | unresolved name =>
    have hopen : type.shape = .keyedState { key := state.key, value := .unresolved name } := by
      rw [hshape, ← hvalue]
    obtain ⟨hunknown, hforeign⟩ := h.lookup?_of_open htype hopen
    have hnative : name ∉ Primitive.nativeNames := by
      intro hnative
      simpa [hforeign] using Primitive.isSome_ofName?_of_native hnative
    -- such a name is reported, so the check cannot have passed
    simp [checkType, Report.groupUnlessEmpty, checkShape, checkKeyedState, hshape, hvalue,
      unknownType, contains, hunknown, hnative, lineIf] at hchecked

/-! ### Merging and sealing -/

/-- What is listed is merged, sealed and found, unless it has the name of a primitive type or of a
state. -/
theorem Lowering.Lists.exists_kept {types results : List NamedType}
    {typed settled : List TypedState} {imports : List Import} {packages : List Package}
    {entries : Set (String × Shape)} {name : String} {shape : Shape}
    (h : Lowering.Lists types entries)
    (hmerge : Package.mergeTypesAndStates types typed imports packages = .ok (results, settled))
    (hstates : ∀ state ∈ states, ∃ keyed, state.shape = .keyedState keyed)
    (hscope : ((({} : Declarations).insertAll results).insertAll states).toScope = .ok scope)
    (hentry : (name, shape) ∈ entries) (hforeign : name ∉ Primitive.nativeNames)
    (hname : name ∉ states.map NamedType.name) :
    ∃ type ∈ results, type ∈ scope.types ∧ type.name = name ∧ type.origin = .declared ∧
      Declarations.settle { types := results } { name, shape } = .ok type := by
  obtain ⟨merging, merged, rfl, hholds, hfinished⟩ := Package.exists_merging hmerge
  have htidy := hholds.grown.tidy
  obtain ⟨type, htype, hsettle, hsame, horigin⟩ :=
    Package.exists_result_of_declared htidy hfinished.seals
      (Package.declared?_of_local hholds.grown h.nodup (h.mem name shape hentry) hforeign)
  have hkept := Declarations.mem_toScope_insertAll ⟨_, htidy, hfinished.seals⟩ hstates hscope htype
    (by rwa [hsame])
  exact ⟨type, htype, hkept, hsame, horigin, hsettle⟩

namespace Compiler

open Lowering (Source)

variable {loader : Package.Loader} {folder : String} {useDevelopment : Bool}
  {packages : List Package} {result : Result}

/-! ### Compilation -/

/-- A document compiles to a result, from the imports and packages that were fetched for it. -/
inductive Compiles : Source → Result → Prop
  | dataflow {document : Document.DataflowDocument} {definition : Dataflow} {imports : List Import}
      {packages : List Package} {result : Result}
      (hlower : Lowering.dataflow document = .ok definition)
      (hfinish : finishDataflow { definition with imports } packages = .ok result) :
      Compiles (.dataflow document) result
  | package {document : Document.PackageDocument} {definition : Package} {imports : List Import}
      {packages : List Package} {result : Result}
      (hlower : Lowering.package document = .ok definition)
      (hfinish : finishPackage { definition with imports } packages = .ok result) :
      Compiles (.package document) result

/-- What an action gives if it starts with what the loader remembers. -/
def Compile.outcome {α : Type} (action : Compile α) (loader : Package.Loader) : Except Error α :=
  (action.run.run loader).1

theorem Compile.outcome_eq_ok_iff {α : Type} {action : Compile α} {value : α} :
    action.outcome loader = .ok value ↔ ∃ later, action.run.run loader = (.ok value, later) := by
  constructor
  · exact fun h ↦ ⟨_, Prod.ext h rfl⟩
  · rintro ⟨later, h⟩
    rw [outcome, h]

/-- An outcome that reads nothing leaves the loader as it was. -/
theorem run_lift_eq_ok_iff {α : Type} {outcome : Except Error α} {later : Package.Loader}
    {value : α} :
    (liftM outcome : Compile α).run.run loader = (.ok value, later) ↔
      outcome = .ok value ∧ loader = later :=
  Prod.mk_inj

theorem run_fetch_eq_ok_iff {later : Package.Loader}
    {imports development : List Import} {fetched : List Package × List Import} :
    (fetch folder imports development useDevelopment).run.run loader = (.ok fetched, later) ↔
      (Package.fetch folder imports development useDevelopment).run.run loader =
        (.ok fetched, later) := by
  change (((Package.fetch folder imports development useDevelopment).run.run loader).1.mapError
      Error.imports,
    ((Package.fetch folder imports development useDevelopment).run.run loader).2) = _ ↔ _
  rw [Prod.mk_inj, mapError_eq_ok_iff, Prod.ext_iff]

/-- A dataflow compiles if its document is lowered, its imports are fetched, and what is behind that
succeeds. -/
theorem compileDataflowDocument_eq_ok_iff {document : Document.DataflowDocument} :
    (compileDataflowDocument useDevelopment folder document).outcome loader = .ok result ↔
      ∃ lowered packages imports later, Lowering.dataflow document = .ok lowered ∧
        (Package.fetch folder lowered.imports lowered.developmentImports useDevelopment).run.run
          loader = (.ok (packages, imports), later) ∧
        finishDataflow { lowered with imports } packages = .ok result := by
  rw [Compile.outcome_eq_ok_iff]
  constructor
  · rintro ⟨last, hrun⟩
    obtain ⟨lowered, before, hlower, hrest⟩ := run_bind_eq_ok_iff.mp hrun
    obtain ⟨hlowered, rfl⟩ := run_lift_eq_ok_iff.mp hlower
    obtain ⟨⟨packages, imports⟩, later, hfetch, hlast⟩ := run_bind_eq_ok_iff.mp hrest
    exact ⟨lowered, packages, imports, later, mapError_eq_ok_iff.mp hlowered,
      run_fetch_eq_ok_iff.mp hfetch, (run_lift_eq_ok_iff.mp hlast).1⟩
  · rintro ⟨lowered, packages, imports, later, hlowered, hfetch, hfinish⟩
    refine ⟨later, run_bind_eq_ok_iff.mpr ⟨lowered, loader, ?_, ?_⟩⟩
    · exact run_lift_eq_ok_iff.mpr ⟨mapError_eq_ok_iff.mpr hlowered, rfl⟩
    · exact run_bind_eq_ok_iff.mpr ⟨_, later, run_fetch_eq_ok_iff.mpr hfetch,
        run_lift_eq_ok_iff.mpr ⟨hfinish, rfl⟩⟩

/-- What a dataflow is compiled from. -/
inductive DataflowInput where
  | text (source : String)
  | document (document : Document.DataflowDocument)

namespace DataflowInput

def compile (useDevelopment : Bool) (folder : String) : DataflowInput → Compile Result
  | text source => compileDataflowText useDevelopment folder source
  | document parsed => compileDataflowDocument useDevelopment folder parsed

/-- The document that is compiled. -/
def read : DataflowInput → Except Error Document.DataflowDocument
  | text source => readDataflow source
  | document parsed => .ok parsed

end DataflowInput

/-- Reading a document leaves the loader as it is, so a dataflow is compiled from its document in
any case. -/
theorem exists_document_of_compile {input : DataflowInput}
    (h : (input.compile useDevelopment folder).outcome loader = .ok result) : ∃ document,
      input.read = .ok document ∧
        (compileDataflowDocument useDevelopment folder document).outcome loader = .ok result := by
  cases input with
  | document document => exact ⟨document, rfl, h⟩
  | text source =>
    obtain ⟨last, hrun⟩ := Compile.outcome_eq_ok_iff.mp h
    obtain ⟨document, later, hlift, hcompile⟩ := run_bind_eq_ok_iff.mp hrun
    obtain ⟨hread, rfl⟩ := run_lift_eq_ok_iff.mp hlift
    exact ⟨document, hread, Compile.outcome_eq_ok_iff.mpr ⟨last, hcompile⟩⟩

/-- What compiles as a dataflow holds a document that does. -/
theorem exists_compiles_of_compile {input : DataflowInput}
    (h : (input.compile useDevelopment folder).outcome loader = .ok result) :
    ∃ document, input.read = .ok document ∧ Compiles (.dataflow document) result := by
  obtain ⟨document, hread, hdocument⟩ := exists_document_of_compile h
  obtain ⟨_, _, _, _, hlower, -, hfinish⟩ := compileDataflowDocument_eq_ok_iff.mp hdocument
  exact ⟨document, hread, .dataflow hlower hfinish⟩

/-- A text that compiles as a package holds a document that does. -/
theorem exists_compiles_of_compilePackageText {text : String}
    (h : (compilePackageText useDevelopment folder text).outcome loader = .ok result) :
    ∃ parsed, Document.parsePackage text = .ok parsed ∧
      Compiles (.package parsed.document) result := by
  obtain ⟨_, hrun⟩ := Compile.outcome_eq_ok_iff.mp h
  obtain ⟨document, _, hread, hrun⟩ := run_bind_eq_ok_iff.mp hrun
  obtain ⟨definition, _, hlower, hrun⟩ := run_bind_eq_ok_iff.mp hrun
  obtain ⟨⟨packages, imports⟩, _, -, hfinish⟩ := run_bind_eq_ok_iff.mp hrun
  obtain ⟨parsed, hparsed, hdocument⟩ := bind_eq_ok_iff.mp (run_lift_eq_ok_iff.mp hread).1
  cases hdocument
  have hlowered := mapError_eq_ok_iff.mp (run_lift_eq_ok_iff.mp hlower).1
  exact ⟨parsed, mapError_eq_ok_iff.mp hparsed, .package hlowered (run_lift_eq_ok_iff.mp hfinish).1⟩

namespace Result

/-- The types of the compiled definition, the imported ones included. -/
def types (result : Result) : List NamedType :=
  match result.content with
  | .dataflow definition _ => definition.types
  | .package definition => definition.types

/-- The names of the states that are in scope. -/
def stateNames (result : Result) : List String :=
  match result.content with
  | .dataflow definition _ =>
    definition.services.flatMap fun service ↦ State.ownedStates service.states
  | .package definition => definition.states.map TypedState.name

end Result

theorem exists_keyed_of_ownedType? {state : PoolState} (h : state.ownedType? = some type) :
    ∃ keyed, type.shape = .keyedState keyed := by
  unfold PoolState.ownedType? at h
  split at h
  next typed hsource =>
    cases h
    exact ⟨typed.type, rfl⟩
  next => cases h

theorem nil_of_conclude {heading : String} {nodes : List Report}
    (h : Validation.conclude heading nodes = .ok ()) : nodes = [] := by
  unfold Validation.conclude at h
  split_ifs at h with hnodes
  exact List.isEmpty_iff.mp hnodes

theorem checkType_of_validateDataflow {dataflow : Dataflow}
    (h : Validation.validateDataflow scope dataflow = .ok ()) :
    ∀ type ∈ dataflow.types, scope.checkType type = none := by
  have hnodes := nil_of_conclude h
  simp only [Validation.dataflowProblems, List.append_eq_nil_iff,
    List.filterMap_eq_nil_iff] at hnodes
  obtain ⟨⟨⟨⟨⟨⟨-, hchecked⟩, -⟩, -⟩, -⟩, -⟩, -⟩ := hnodes
  exact hchecked

theorem checkType_of_validatePackage {package : Package}
    (h : Validation.validatePackage scope package = .ok ()) :
    ∀ type ∈ package.types, scope.checkType type = none := by
  have hnodes := nil_of_conclude h
  simp only [Validation.packageProblems, List.append_eq_nil_iff,
    List.filterMap_eq_nil_iff] at hnodes
  obtain ⟨⟨⟨-, hchecked⟩, -⟩, -⟩ := hnodes
  exact hchecked

theorem resolveStates_eq_ok_iff {scope : Scope} {dataflow resolved : Dataflow} :
    resolveStates scope dataflow = .ok resolved ↔
      State.resolveDataflow scope.shape? dataflow = (resolved, []) := by
  unfold resolveStates
  rcases State.resolveDataflow scope.shape? dataflow with ⟨other, - | ⟨error, errors⟩⟩ <;> simp

/-- A dataflow is finished if its imports are resolved, its types and states make up a scope,
nothing is wrong in it, its states are resolved and the types of its services are inferred. -/
theorem finishDataflow_eq_ok_iff {dataflow : Dataflow} :
    finishDataflow dataflow packages = .ok result ↔ ∃ merged resolution scope resolved services,
      Package.resolveDataflow dataflow packages = .ok (merged, resolution) ∧
      merged.scope = .ok scope ∧ Validation.validateDataflow scope merged = .ok () ∧
      State.resolveDataflow scope.shape? merged = (resolved, []) ∧
      Inference.inferAll resolved = .ok services ∧
      result = { content := .dataflow resolved services, scope, resolution } := by
  constructor
  · intro h
    obtain ⟨⟨merged, resolution⟩, hresolve, h⟩ := bind_eq_ok_iff.mp h
    obtain ⟨scope, hscope, h⟩ := bind_eq_ok_iff.mp h
    obtain ⟨⟨⟩, hvalid, h⟩ := bind_eq_ok_iff.mp h
    obtain ⟨resolved, hstates, h⟩ := bind_eq_ok_iff.mp h
    obtain ⟨services, hservices, h⟩ := bind_eq_ok_iff.mp h
    cases h
    exact ⟨merged, resolution, scope, resolved, services, mapError_eq_ok_iff.mp hresolve,
      mapError_eq_ok_iff.mp hscope, mapError_eq_ok_iff.mp hvalid,
      resolveStates_eq_ok_iff.mp hstates, mapError_eq_ok_iff.mp hservices, rfl⟩
  · rintro ⟨merged, resolution, scope, resolved, services, hresolve, hscope, hvalid, hstates,
      hservices, rfl⟩
    refine bind_eq_ok_iff.mpr ⟨_, mapError_eq_ok_iff.mpr hresolve, ?_⟩
    refine bind_eq_ok_iff.mpr ⟨_, mapError_eq_ok_iff.mpr hscope, ?_⟩
    refine bind_eq_ok_iff.mpr ⟨(), mapError_eq_ok_iff.mpr hvalid, ?_⟩
    refine bind_eq_ok_iff.mpr ⟨_, resolveStates_eq_ok_iff.mpr hstates, ?_⟩
    exact bind_eq_ok_iff.mpr ⟨_, mapError_eq_ok_iff.mpr hservices, rfl⟩

/-- How the types of a result come about: local types are merged with imported ones, sealed together
with the states, and checked. -/
def Assembles (types : List NamedType) (result : Result) : Prop :=
  ∃ typed imports packages settled states,
    Package.mergeTypesAndStates types typed imports packages = .ok (result.types, settled) ∧
    (∀ state ∈ states, ∃ keyed, state.shape = .keyedState keyed) ∧
    ((({} : Declarations).insertAll result.types).insertAll states).toScope = .ok result.scope ∧
    states.map NamedType.name = result.stateNames ∧
    ∀ type ∈ result.types, result.scope.checkType type = none

theorem assembles_of_finishDataflow {dataflow : Dataflow}
    (h : finishDataflow dataflow packages = .ok result) : Assembles dataflow.types result := by
  obtain ⟨_, resolution, scope, resolved, services, hresolve, hscope, hvalid, hstates, -, rfl⟩ :=
    finishDataflow_eq_ok_iff.mp h
  obtain ⟨found, -, hresolve⟩ := bind_eq_ok_iff.mp hresolve
  obtain ⟨⟨types, settled⟩, hmerge, hresolve⟩ := bind_eq_ok_iff.mp hresolve
  obtain ⟨adopted, -, hresolve⟩ := bind_eq_ok_iff.mp hresolve
  cases hresolve
  obtain ⟨htypes, howned⟩ := State.ownedStates_of_resolveDataflow hstates
  have hchecked := checkType_of_validateDataflow hvalid
  have htypes : Result.types { content := .dataflow resolved services, scope, resolution } =
      types :=
    htypes
  refine ⟨_, _, _, settled, _, htypes ▸ hmerge, ?_, htypes ▸ hscope, ?_, htypes ▸ hchecked⟩
  · intro state hstate
    obtain ⟨service, -, hstate⟩ := List.mem_flatMap.mp hstate
    obtain ⟨entry, -, hstate⟩ := List.mem_filterMap.mp hstate
    exact exists_keyed_of_ownedType? hstate
  · rw [List.map_flatMap, List.flatMap_def]
    exact congrArg List.flatten howned.symm

theorem assembles_of_finishPackage {package : Package}
    (h : finishPackage package packages = .ok result) : Assembles package.types result := by
  obtain ⟨⟨merged, resolution⟩, hresolve, h⟩ := bind_eq_ok_iff.mp h
  obtain ⟨scope, hscope, h⟩ := bind_eq_ok_iff.mp h
  obtain ⟨⟨⟩, hvalid, h⟩ := bind_eq_ok_iff.mp h
  obtain ⟨resolved, hstates, h⟩ := bind_eq_ok_iff.mp h
  cases h
  obtain ⟨found, -, hresolve⟩ := bind_eq_ok_iff.mp (mapError_eq_ok_iff.mp hresolve)
  obtain ⟨merged, hmerge, hresolve⟩ := bind_eq_ok_iff.mp hresolve
  cases hresolve
  obtain ⟨settled, lookup, hmerge, -⟩ := Package.exists_of_merge hmerge
  unfold resolvePackageStates at hstates
  split at hstates
  next final hfinal =>
    cases hstates
    obtain ⟨htypes, hresolved⟩ := Package.resolved_of_resolvePackage hfinal
    have hchecked := checkType_of_validatePackage (mapError_eq_ok_iff.mp hvalid)
    have htypes : Result.types { content := .package resolved, scope, resolution } = merged.types :=
      htypes
    refine ⟨_, _, _, settled, merged.states.map TypedState.namedType, htypes ▸ hmerge, ?_, ?_, ?_,
      htypes ▸ hchecked⟩
    · intro state hstate
      obtain ⟨typed, -, rfl⟩ := List.mem_map.mp hstate
      exact ⟨typed.type, rfl⟩
    · rw [htypes]
      exact mapError_eq_ok_iff.mp hscope
    · rw [List.map_map]
      exact (Package.Merging.map_name_of_forall₂ hresolved).symm
  next => cases hstates

theorem Compiles.exists_assembles {source : Source} (h : Compiles source result) :
    ∃ types, Lowering.Lists types source.entries ∧ Assembles types result := by
  cases h with
  | dataflow hlower hfinish =>
    have hassembles := assembles_of_finishDataflow hfinish
    exact ⟨_, Lowering.lists_of_dataflow hlower, hassembles⟩
  | package hlower hfinish =>
    have hassembles := assembles_of_finishPackage hfinish
    exact ⟨_, Lowering.lists_of_package hlower, hassembles⟩

/-- Every type that a compiled document declares under a name which is no primitive type's is found
under that name in the scope of the result, as it was declared and with the value of a keyed state
settled, unless a state has the name. -/
theorem Compiles.exists_type {source : Source} {result : Result} {name : String} {shape : Shape}
    (h : Compiles source result) (hentry : (name, shape) ∈ source.entries)
    (hforeign : name ∉ Primitive.nativeNames) (hstate : name ∉ result.stateNames) :
    ∃ type ∈ result.scope.types, type.name = name ∧ type.origin = .declared ∧
      Declarations.settle { types := result.types } { name, shape } = .ok type ∧
      ∀ state, type.shape = .keyedState state → state.value.isResolved := by
  obtain ⟨types, hlists, typed, imports, packages, settled, states, hmerge, hkeyed, hscope,
      hnames, hchecked⟩ :=
    h.exists_assembles
  obtain ⟨type, htype, hkept, hname, horigin, hsettle⟩ :=
    hlists.exists_kept hmerge hkeyed hscope hentry hforeign (hnames ▸ hstate)
  have hsealed : result.scope.Sealed :=
    ⟨_, (Declarations.Tidy.empty.insertAll _).insertAll _, hscope⟩
  exact ⟨type, hkept, hname, horigin, hsettle,
    fun state hshape ↦ hsealed.isResolved_of_checkType hkept hshape (hchecked type htype)⟩

/-! ### A document that compiles -/

/-- The version of the documents here. -/
def sixthVersion : ApiVersion := { text := "0.6.0", version := { segments := [0, 6, 0] } }

theorem parseVersion_sixthVersion : Lowering.parseVersion "0.6.0" = .ok sixthVersion := rfl

theorem isV5_sixthVersion : sixthVersion.isV5 = false := rfl

/-- A keyed state that has a name of its own, as has the row in it. -/
def totalsDeclaration : Document.Declaration :=
  .keyedState { typeName := "totals" } (.plain {} "string")
    (.row { typeName := "line" } [{ name := "count", type := "i32" }])

/-- Declares a type under the name of a primitive one, and types inside another. -/
def flowDocument : Document.DataflowDocument :=
  { apiVersion := "0.6.0"
    header := { owner := "example", name := "flow", version := "0.1.0" }
    types :=
      [("u32", .plain {} "string"),
        ("order", .object {}
          [{ name := "tag", type := .plain { typeName := "tag-text" } "string" },
            { name := "totals", type := totalsDeclaration }])] }

def orderShape : Shape :=
  .object [{ name := "tag", type := "string", serde := ⟨some "tag", some "tag"⟩ },
    { name := "totals", type := "totals", serde := ⟨some "totals", some "totals"⟩ }]

def lineColumns : List Column := [{ name := "count", type := "s32" }]

def flowDefinition : Dataflow :=
  { apiVersion := "0.6.0"
    header := { owner := "example", name := "flow", version := "0.1.0" }
    types :=
      [{ name := "line", shape := .row lineColumns },
        { name := "order", shape := orderShape },
        { name := "totals", shape := .keyedState { key := "string", value := .unresolved "line" } },
        { name := "u32", shape := .primitive .string }] }

/-- The type with the primitive name is gone, and the keyed state holds a row. -/
def keptTypes : List NamedType :=
  [{ name := "line", shape := .row lineColumns },
    { name := "order", shape := orderShape },
    { name := "totals", shape := .keyedState { key := "string", value := .row lineColumns } }]

def keptDefinition : Dataflow := { flowDefinition with types := keptTypes }

def flowResult : Result :=
  { content := .dataflow keptDefinition []
    scope := { types := keptTypes }
    resolution := { imports := [], resolved := [] } }

theorem dataflow_flowDocument : Lowering.dataflow flowDocument = .ok flowDefinition := by
  have hmap {α β : Type} (f : α → β) (a : α) : f <$> (Except.ok a : Except Lowering.Error α) =
      .ok (f a) := rfl
  rw [Lowering.dataflow, show flowDocument.apiVersion = "0.6.0" from rfl, parseVersion_sixthVersion]
  simp [flowDocument, totalsDeclaration, flowDefinition, orderShape, lineColumns, isV5_sixthVersion,
    Lowering.runLower, Lowering.declare, Lowering.shapeOf, Lowering.fieldsOf, Lowering.reference,
    Lowering.stateValue, Lowering.run_hoist, Lowering.run_inContext, Lowering.plainShape,
    Lowering.lowerColumns, Lowering.serde, Lowering.serdeName, Lowering.Table.types,
    Lowering.effectiveTopics, Lowering.developmentImports, Document.Meta.header,
    Document.Declaration.info, Text.sortByName, List.mergeSort, List.lookup_cons, pure_eq_ok,
    ok_bind, hmap, Except.map, Except.mapError,
    show Primitive.normalize "string" = "string" from rfl,
    show Primitive.normalize "i32" = "s32" from rfl,
    show Primitive.ofName? "string" = some .string from rfl]

theorem resolveDataflow_flowDefinition :
    Package.resolveDataflow flowDefinition [] =
      .ok (keptDefinition, { imports := [], resolved := [] }) := by
  cbv

theorem scope_keptDefinition : keptDefinition.scope = .ok { types := keptTypes } := by
  cbv

theorem validateDataflow_keptDefinition :
    Validation.validateDataflow { types := keptTypes } keptDefinition = .ok () :=
  eq_ok_of_toOption (by decide +kernel)

theorem compiles_flowDocument : Compiles (.dataflow flowDocument) flowResult := by
  refine @Compiles.dataflow _ flowDefinition [] [] _ dataflow_flowDocument ?_
  exact finishDataflow_eq_ok_iff.mpr ⟨keptDefinition, _, _, keptDefinition, [],
    resolveDataflow_flowDefinition, scope_keptDefinition, validateDataflow_keptDefinition,
    rfl, rfl, rfl⟩

/-- The keyed state that stands inside another type is found, with a row for its value. -/
theorem Compiles.exists_type_totals : Compiles (.dataflow flowDocument) flowResult ∧
    ∃ type ∈ flowResult.scope.types, type.name = "totals" ∧ type.origin = .declared ∧
      Declarations.settle { types := flowResult.types }
        { name := "totals",
          shape := .keyedState { key := "string", value := .unresolved "line" } } = .ok type ∧
      ∀ state, type.shape = .keyedState state → state.value.isResolved := by
  refine ⟨compiles_flowDocument,
    Compiles.exists_type compiles_flowDocument ?_ (by decide) (by decide)⟩
  refine .inl ⟨_, List.mem_cons_of_mem _ List.mem_cons_self,
    .inr ⟨totalsDeclaration, ⟨_, ?_, .refl⟩, rfl, rfl⟩⟩
  exact List.mem_cons_of_mem _ List.mem_cons_self

/-- The type that has the name of a primitive one is not found, and neither is the name that a
declaration without parts gives itself. -/
theorem primitive_name_not_stored : Compiles (.dataflow flowDocument) flowResult ∧
    ("u32", .plain {} "string") ∈ flowDocument.types ∧
    ("u32", .primitive .string) ∈ (Source.dataflow flowDocument).entries ∧
    (∃ outer ∈ flowDocument.types,
      Document.Declaration.plain { typeName := "tag-text" } "string" ∈ outer.2.parts) ∧
    flowResult.stateNames = [] ∧
    ∀ name ∈ ["u32", "tag-text"], name ∉ flowResult.scope.types.map NamedType.name := by
  refine ⟨compiles_flowDocument, List.mem_cons_self, .inl ⟨_, List.mem_cons_self, .inl rfl⟩,
    ⟨_, List.mem_cons_of_mem _ List.mem_cons_self, List.mem_cons_self⟩, rfl, ?_⟩
  decide

end Compiler

end FlowSpec
