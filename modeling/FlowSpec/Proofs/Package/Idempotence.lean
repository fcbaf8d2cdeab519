import FlowSpec.Proofs.Package.LoadOrder
import FlowSpec.Proofs.Package.Redeclaration
import FlowSpec.Proofs.State.Steps

/-!
Resolving what has been resolved. A package that was merged declares everything that its imports
offer, with the same definitions as long as no value of a keyed state is left open, so merging it
once more adds nothing and finds nothing to object to (`merge_again`). Merging keeps headers and
imports, so resolved packages are put in the order in which they were resolved, and resolution
returns them as they are.
-/

set_option autoImplicit false

namespace FlowSpec

open Outcome

namespace Package

variable {package merged source : Package} {children : List Package} {self : Import}

/-- No value of a keyed state is open, neither among the types nor among the states. -/
structure AllSettled (package : Package) : Prop where
  types : ∀ type ∈ package.types, type.IsSettled
  states : ∀ state ∈ package.states, state.type.value.isResolved

theorem AllSettled.declarations (h : package.AllSettled) :
    ∀ type ∈ package.declarations.types, type.IsSettled := by
  intro type htype
  rcases Declarations.mem_of_mem_insertAll htype with htype | htype
  · rcases Declarations.mem_of_mem_insertAll htype with htype | htype
    · exact absurd htype List.not_mem_nil
    · exact h.types type htype
  · obtain ⟨state, hstate, rfl⟩ := List.mem_map.mp htype
    rintro _ ⟨⟩
    exact h.states state hstate

theorem AllSettled.isSettled_of_scope {scope : Scope} {type : NamedType} (h : package.AllSettled)
    (hscope : package.scope = .ok scope) (htype : type ∈ scope.types) : type.IsSettled := by
  have hsorted : package.scope = .ok _ := Declarations.toScope_of_isSettled h.declarations
  rw [hscope, Except.ok.injEq] at hsorted
  rw [hsorted, Text.mem_sortByName] at htype
  exact h.declarations type htype

/-! ### What settled packages offer -/

theorem exists_of_mem_offeredTypes {type : NamedType} (h : type ∈ offeredTypes children self) :
    ∃ source ∈ children, ∃ scope, source.scope = .ok scope ∧ type ∈ scope.types := by
  unfold offeredTypes at h
  cases hsource : find? self.package children with
  | none => simp [hsource] at h
  | some source =>
    cases hscope : source.scope with
    | error cause => simp [hsource, hscope] at h
    | ok scope =>
      simp only [hsource, hscope, List.mem_flatMap] at h
      obtain ⟨name, -, htype⟩ := h
      have hnames := (tidy_declarations source).nodup_of_toScope hscope
      exact ⟨source, List.mem_of_find?_eq_some hsource, scope, hscope,
        Scope.mem_types_of_mem_tree hnames htype⟩

theorem exists_of_mem_offeredStates {state : TypedState} (h : state ∈ offeredStates children self) :
    ∃ source ∈ children, state ∈ source.states := by
  unfold offeredStates at h
  cases hsource : find? self.package children with
  | none => simp [hsource] at h
  | some source =>
    simp only [hsource, List.mem_filterMap] at h
    obtain ⟨name, -, hstate⟩ := h
    exact ⟨source, List.mem_of_find?_eq_some hsource, List.mem_of_find?_eq_some hstate⟩

/-- What an import names is there: its package, which has a scope, and the states that it lists. -/
def Available (packages : List Package) (self : Import) : Prop :=
  ∃ source scope, find? self.package packages = some source ∧ source.scope = .ok scope ∧
    ∀ name ∈ self.states, (source.state? name).isSome

namespace Merging

variable {merging next : Merging} {scope : Scope}

theorem isSome_of_importState {name : String}
    (h : importState scope source merging name = .ok next) :
    (source.state? name).isSome := by
  unfold importState at h
  cases hstate : source.state? name with
  | none =>
    rw [hstate] at h
    cases h
  | some state => rfl

theorem available_of_importFrom (h : importFrom children merging self = .ok next) :
    Available children self := by
  unfold importFrom at h
  cases hsource : find? self.package children with
  | none =>
    rw [hsource] at h
    cases h
  | some source =>
    cases hscope : source.scope with
    | error cause =>
      simp only [hsource, hscope] at h
      cases h
    | ok scope =>
      simp only [hsource, hscope] at h
      obtain ⟨listed, -, h⟩ := bind_eq_ok_iff.mp h
      refine ⟨source, scope, hsource, hscope, fun name hname ↦ ?_⟩
      obtain ⟨before, after, hstate⟩ := exists_of_foldlM_eq_ok h hname
      exact isSome_of_importState hstate

/-! ### Imports that bring nothing new -/

/-- All these types are declared, under their names and with their shapes. -/
def Declares (declarations : Declarations) (types : List NamedType) : Prop :=
  ∀ type ∈ types, type.name ∉ Primitive.nativeNames ∧
    ∃ result, declarations.declared? type.name = some result ∧ result.shape = type.shape

theorem insertTree_of_declares {declarations : Declarations} {tree : List NamedType}
    (package : String) (h : Declares declarations tree) :
    insertTree package declarations tree = .ok declarations := by
  induction tree with
  | nil => rfl
  | cons type rest ih =>
    obtain ⟨⟨hforeign, result, hresult, hshape⟩, hrest⟩ := List.forall_mem_cons.mp h
    have hreplaced : declarations.replaced? type.name = some result := by
      rw [Declarations.replaced?, if_neg (by simpa using hforeign), hresult]
    simp only [insertTree, hreplaced, hshape, if_true]
    exact ih hrest

theorem addTrees_of_declares {names : List String} (package : String)
    (h : Declares merging.declarations (names.flatMap scope.tree)) :
    merging.addTrees scope package names = .ok merging := by
  have hfold : names.foldlM (fun declarations name ↦
        insertTree package declarations (scope.tree name))
      merging.declarations = .ok merging.declarations := by
    induction names with
    | nil => rfl
    | cons name rest ih =>
      rw [List.flatMap_cons] at h
      obtain ⟨hname, hrest⟩ := List.forall_mem_append.mp h
      rw [List.foldlM_cons, insertTree_of_declares package hname]
      exact ih hrest
  exact bind_eq_ok_iff.mpr ⟨_, hfold, rfl⟩

theorem addState_of_mem {state : TypedState} (h : state.name ∈ merging.states.map TypedState.name) :
    merging.addState state = { merging with repeated := merging.repeated ++ [state] } := by
  obtain ⟨other, hother, hname⟩ := List.mem_map.mp h
  exact if_pos (List.any_eq_true.mpr ⟨other, hother, by simpa using hname⟩)

theorem importStates_again {names : List String}
    (hsome : ∀ name ∈ names, (source.state? name).isSome) (htypes : Declares merging.declarations
      (((names.filterMap source.state?).flatMap stateReferences).flatMap scope.tree))
    (hstates : ∀ state ∈ names.filterMap source.state?,
      state.name ∈ merging.states.map TypedState.name) :
    names.foldlM (importState scope source) merging =
      .ok { merging with repeated := merging.repeated ++ names.filterMap source.state? } := by
  induction names generalizing merging with
  | nil =>
    rw [List.filterMap_nil, List.append_nil]
    rfl
  | cons name rest ih =>
    obtain ⟨hname, hrest⟩ := List.forall_mem_cons.mp hsome
    obtain ⟨state, hstate⟩ := Option.isSome_iff_exists.mp hname
    rw [List.filterMap_cons_some hstate] at htypes hstates ⊢
    rw [List.flatMap_cons, List.flatMap_append] at htypes
    obtain ⟨hfirst, htypes⟩ := List.forall_mem_append.mp htypes
    obtain ⟨hknown, hstates⟩ := List.forall_mem_cons.mp hstates
    have hstep : importState scope source merging name =
        .ok { merging with repeated := merging.repeated ++ [state] } := by
      simp only [importState, hstate]
      exact bind_eq_ok_iff.mpr ⟨merging, addTrees_of_declares _ hfirst,
        congrArg _ (addState_of_mem hknown)⟩
    have hnext := @ih { merging with repeated := merging.repeated ++ [state] } hrest htypes hstates
    rw [List.append_assoc, List.singleton_append] at hnext
    rw [List.foldlM_cons, hstep]
    exact hnext

/-- An import whose types are declared and whose states are listed only gives states to compare. -/
theorem importFrom_again (havailable : Available children self)
    (htypes : Declares merging.declarations (offeredTypes children self))
    (hstates : ∀ state ∈ offeredStates children self,
      state.name ∈ merging.states.map TypedState.name) :
    importFrom children merging self =
      .ok { merging with repeated := merging.repeated ++ offeredStates children self } := by
  obtain ⟨source, scope, hsource, hscope, hsome⟩ := havailable
  simp only [offeredTypes, offeredStates, importedNames, hsource, hscope,
    List.flatMap_append] at htypes hstates ⊢
  obtain ⟨hlisted, htypes⟩ := List.forall_mem_append.mp htypes
  simp only [importFrom, hsource, hscope]
  exact bind_eq_ok_iff.mpr ⟨merging, addTrees_of_declares _ hlisted,
    importStates_again hsome htypes hstates⟩

theorem foldlM_importFrom_again {imports : List Import}
    (havailable : ∀ self ∈ imports, Available children self)
    (htypes : Declares merging.declarations (imports.flatMap (offeredTypes children)))
    (hstates : ∀ state ∈ imports.flatMap (offeredStates children),
      state.name ∈ merging.states.map TypedState.name) :
    imports.foldlM (importFrom children) merging =
      .ok { merging with
            repeated := merging.repeated ++ imports.flatMap (offeredStates children) } := by
  induction imports generalizing merging with
  | nil =>
    rw [List.flatMap_nil, List.append_nil]
    rfl
  | cons self rest ih =>
    obtain ⟨hself, hrest⟩ := List.forall_mem_cons.mp havailable
    rw [List.flatMap_cons] at htypes hstates ⊢
    obtain ⟨hfirst, htypes⟩ := List.forall_mem_append.mp htypes
    obtain ⟨hknown, hstates⟩ := List.forall_mem_append.mp hstates
    have hnext :=
      @ih { merging with
            repeated := merging.repeated ++ offeredStates children self } hrest htypes hstates
    rw [List.append_assoc] at hnext
    rw [List.foldlM_cons, importFrom_again hself hfirst hknown]
    exact hnext

/-- States of different names are listed as they come. -/
theorem foldl_addState_of_nodup {states : List TypedState}
    (h : ((merging.states ++ states).map TypedState.name).Nodup) :
    states.foldl addState merging = { merging with states := merging.states ++ states } := by
  induction states generalizing merging with
  | nil => simp
  | cons state rest ih =>
    have hnew : (merging.states.any fun other ↦ other.name == state.name) = false := by
      rw [List.any_eq_false]
      intro other hother hsame
      rw [List.map_append, List.map_cons] at h
      exact (List.nodup_append.mp h).2.2 _ (List.mem_map_of_mem hother) _ List.mem_cons_self
        (by simpa using hsame)
    have hadd : merging.addState state = { merging with states := merging.states ++ [state] } := by
      rw [addState, hnew]
      rfl
    rw [List.foldl_cons, hadd, ih (by simpa using h)]
    simp

/-- Where all values are settled and the states to compare are listed, there is nothing to
finish. -/
theorem finish_of_settled (hscope : merging.declarations.toScope = .ok scope)
    (hsettled : ∀ state ∈ merging.states, state.type.value.isResolved)
    (hnames : (merging.states.map TypedState.name).Nodup)
    (hrepeated : ∀ state ∈ merging.repeated, state ∈ merging.states) :
    merging.finish = .ok (scope.types, merging.states) := by
  have hsettle (state : TypedState) (hstate : state ∈ merging.states) :
      (state.resolve scope.shape?).mapError Error.stateValue = .ok state := by
    rw [TypedState.resolve_of_isResolved _ (hsettled state hstate)]
    rfl
  refine bind_eq_ok_iff.mpr ⟨scope, by rw [hscope]; rfl, bind_eq_ok_iff.mpr ⟨merging.states, ?_,
    bind_eq_ok_iff.mpr ⟨(), forM_eq_ok_iff.mpr fun state hstate ↦ ?_, rfl⟩⟩⟩
  · exact mapM_eq_ok_iff.mpr (List.forall₂_same.mpr hsettle)
  · have hmem := hrepeated state hstate
    refine bind_eq_ok_iff.mpr ⟨state, hsettle state hmem, ?_⟩
    rw [(Text.find?_key_eq_some_iff hnames).mpr ⟨hmem, rfl⟩, if_neg (by simp)]
    rfl

end Merging

/-! ### Merging again -/

variable {types : List NamedType} {states : List TypedState} {imports : List Import}

theorem available_of_mergeTypesAndStates {result : List NamedType × List TypedState}
    (h : mergeTypesAndStates types states imports children = .ok result) :
    ∀ self ∈ imports, Available children self := by
  intro self hself
  obtain ⟨merging, hmerging, -⟩ := bind_eq_ok_iff.mp h
  obtain ⟨before, after, hstep⟩ := exists_of_foldlM_eq_ok hmerging hself
  exact Merging.available_of_importFrom hstep

section Offered

variable {results : List NamedType} {listed settled : List TypedState}
  (h : mergeTypesAndStates types states imports children = .ok (results, listed))
  (hchildren : ∀ child ∈ children, child.AllSettled)

include h hchildren

/-- A type that its package has settled is returned as it was offered, but for its origin. -/
theorem declares_offered : Merging.Declares (({} : Declarations).insertAll results)
    (imports.flatMap (offeredTypes children)) := by
  intro type htype
  obtain ⟨merging, scope, rfl, hholds, hfinished⟩ := exists_merging h
  obtain ⟨self, -, hoffered⟩ := List.mem_flatMap.mp htype
  obtain ⟨source, hsource, exported, hexported, hmem⟩ := exists_of_mem_offeredTypes hoffered
  have hforeign := (tidy_declarations source).foreign_of_toScope hexported type hmem
  obtain ⟨result, hresult, hsettle⟩ :=
    exists_result_of_offered hholds.grown hfinished.seals htype hforeign
  have hsettled : type.IsSettled := (hchildren source hsource).isSettled_of_scope hexported hmem
  rw [Declarations.settle_of_isSettled _ (by exact hsettled), Except.ok.injEq] at hsettle
  refine ⟨hforeign, result, ?_, by rw [← hsettle]⟩
  have hname : result.name = type.name := by rw [← hsettle]
  rw [← hname] at hforeign ⊢
  exact Declarations.declared?_insertAll_of_mem (hholds.grown.tidy.nodup_of_toScope hfinished.seals)
    hresult hforeign

theorem mem_of_offered {state : TypedState}
    (hstate : state ∈ imports.flatMap (offeredStates children)) :
    state ∈ listed ∧ state.type.value.isResolved := by
  obtain ⟨merging, scope, -, hholds, hfinished⟩ := exists_merging h
  obtain ⟨self, -, hoffered⟩ := List.mem_flatMap.mp hstate
  obtain ⟨source, hsource, hmem⟩ := exists_of_mem_offeredStates hoffered
  have hresolved := (hchildren source hsource).states state hmem
  obtain ⟨result, hresult, hresolve⟩ :=
    hfinished.exists_result hholds (List.mem_append_right _ hstate)
  rw [TypedState.resolve_of_isResolved _ hresolved] at hresolve
  cases hresolve
  exact ⟨hresult, hresolved⟩

/-- What a merge returns, with its states settled in whatever scope, is not changed by merging it
with the same imports. -/
theorem mergeTypesAndStates_again {lookup : String → Option Shape}
    (hsettled :
      List.Forall₂ (fun state result ↦ TypedState.resolve lookup state = .ok result) listed settled)
    (hstates : ∀ state ∈ settled, state.type.value.isResolved) :
    mergeTypesAndStates results settled imports children = .ok (results, settled) := by
  have hdeclares := declares_offered h hchildren
  have hlisted : ∀ state ∈ imports.flatMap (offeredStates children), state ∈ settled := by
    intro state hstate
    obtain ⟨hmem, hresolved⟩ := mem_of_offered h hchildren hstate
    obtain ⟨result, hresult, hresolve⟩ := exists_right_of_forall₂ hsettled hmem
    rw [TypedState.resolve_of_isResolved _ hresolved] at hresolve
    cases hresolve
    exact hresult
  have havailable := available_of_mergeTypesAndStates h
  obtain ⟨merging, scope, rfl, hholds, hfinished⟩ := exists_merging h
  have hnames : (settled.map TypedState.name).Nodup := by
    rw [Merging.map_name_of_forall₂ hsettled, Merging.map_name_of_forall₂ hfinished.listed,
      hholds.names]
    exact nodup_eraseDups _
  -- the local states are listed, the imported ones are among them and only wait for comparison
  have hstart := @Merging.foldl_addState_of_nodup
    { declarations := ({} : Declarations).insertAll scope.types } settled hnames
  have himports := @Merging.foldlM_importFrom_again children
    { declarations := ({} : Declarations).insertAll scope.types, states := settled } imports
    havailable hdeclares fun state hstate ↦ List.mem_map_of_mem (hlisted state hstate)
  have hfinish := @Merging.finish_of_settled
    { declarations := ({} : Declarations).insertAll scope.types, states := settled,
      repeated := imports.flatMap (offeredStates children) } scope
    (hholds.grown.tidy.ofTypes_of_toScope hfinished.seals) hstates hnames hlisted
  rw [List.nil_append] at hstart himports
  rw [mergeTypesAndStates, hstart, himports]
  exact hfinish

end Offered

/-! ### Resolved packages -/

/-- The package as merging leaves it: the states of its functions have been resolved, and its header
and its imports are what they were. -/
structure Merged (package merged : Package) : Prop where
  header : merged.header = package.header
  imports : merged.imports = package.imports
  functions : ∀ function ∈ merged.functions, ∀ state ∈ function.step.states, state.resolved.isSome

/-- The functions of a package are resolved one by one. -/
theorem forall₂_of_resolveFunctions {states : List TypedState} {functions results : List Operation}
    (h : State.resolveFunctions states functions = (results, none)) :
    List.Forall₂ (fun function result ↦
      State.resolveStepStates states function.step.states =
        (result.step.states, none)) functions results := by
  induction functions generalizing results with
  | nil =>
    cases h
    exact .nil
  | cons function rest ih =>
    rw [State.resolveFunctions] at h
    cases herror : (State.resolveStepStates states function.step.states).2 with
    | some error => simp [herror] at h
    | none =>
      simp only [herror, Prod.mk.injEq] at h
      obtain ⟨rfl, hrest⟩ := h
      exact .cons (Prod.ext rfl herror) (ih (Prod.ext rfl hrest))

/-- Merging keeps imports, and resolves the functions against the states of the merged package. -/
theorem functions_of_merge (h : merge package children = .ok merged) :
    merged.imports = package.imports ∧
      State.resolveFunctions merged.states package.functions = (merged.functions, none) := by
  obtain ⟨types, states, lookup, -, hresolved⟩ := exists_resolvePackage_of_merge h
  unfold State.resolvePackage at hresolved
  split at hresolved
  · cases hresolved
  · obtain ⟨rfl, herror⟩ := Prod.mk.inj hresolved
    exact ⟨rfl, Prod.ext rfl herror⟩

theorem merged_of_merge (h : merge package children = .ok merged) : Merged package merged := by
  obtain ⟨himports, hfunctions⟩ := functions_of_merge h
  refine ⟨header_of_merge h, himports, fun function hfunction ↦ ?_⟩
  obtain ⟨before, -, hsteps⟩ :=
    exists_left_of_forall₂ (forall₂_of_resolveFunctions hfunctions) hfunction
  have hresolved := State.resolved_of_resolveStepStates (congrArg Prod.snd hsteps)
  rwa [hsteps] at hresolved

theorem resolveStepStates_of_resolved {typed : List TypedState} {states : List StepState}
    (h : ∀ state ∈ states, state.resolved.isSome) :
    State.resolveStepStates typed states = (states, none) := by
  induction states with
  | nil => rfl
  | cons state rest ih =>
    obtain ⟨hstate, hrest⟩ := List.forall_mem_cons.mp h
    simp only [State.resolveStepStates, hstate, if_true, ih hrest]

theorem resolveFunctions_of_resolved {states : List TypedState} {functions : List Operation}
    (h : ∀ function ∈ functions, ∀ state ∈ function.step.states, state.resolved.isSome) :
    State.resolveFunctions states functions = (functions, none) := by
  induction functions with
  | nil => rfl
  | cons function rest ih =>
    obtain ⟨hfunction, hrest⟩ := List.forall_mem_cons.mp h
    simp only [State.resolveFunctions, resolveStepStates_of_resolved hfunction, ih hrest]

theorem resolvePackageStates_of_settled (lookup : String → Option Shape) {states : List TypedState}
    (h : ∀ state ∈ states, state.type.value.isResolved) :
    State.resolvePackageStates lookup states = (states, none) := by
  induction states with
  | nil => rfl
  | cons state rest ih =>
    obtain ⟨hstate, hrest⟩ := List.forall_mem_cons.mp h
    simp only [State.resolvePackageStates, TypedState.resolve_of_isResolved lookup hstate, ih hrest]

theorem resolvePackage_of_settled (lookup : String → Option Shape)
    (hstates : ∀ state ∈ package.states, state.type.value.isResolved)
    (hfunctions : ∀ function ∈ package.functions, ∀ state ∈ function.step.states,
      state.resolved.isSome) :
    State.resolvePackage lookup package = (package, none) := by
  simp only [State.resolvePackage, resolvePackageStates_of_settled lookup hstates,
    resolveFunctions_of_resolved hfunctions]

/-- A merged package, merged again with the same packages, is what it was. -/
theorem merge_again (h : merge package children = .ok merged) (hmerged : merged.AllSettled)
    (hchildren : ∀ child ∈ children, child.AllSettled) : merge merged children = .ok merged := by
  have hafter := merged_of_merge h
  obtain ⟨states, lookup, hmerge, hsettled⟩ := exists_of_merge h
  have hagain := mergeTypesAndStates_again hmerge hchildren hsettled hmerged.states
  rw [← hafter.imports] at hagain
  have hscope := Declarations.toScope_of_isSettled hmerged.declarations
  refine bind_eq_ok_iff.mpr ⟨_, hagain, bind_eq_ok_iff.mpr ⟨_, mapError_eq_ok_iff.mpr hscope, ?_⟩⟩
  simp only [resolvePackage_of_settled _ hmerged.states hafter.functions]
  rfl

/-! ### Resolution again -/

variable {order resolved packages : List Package} {roots : List Import}

theorem mem_of_mem_children (h : package ∈ Package.children resolved source) :
    package ∈ resolved := by
  obtain ⟨self, -, hfound⟩ := List.mem_filterMap.mp h
  exact mem_of_byKey? hfound

theorem exists_of_resolveInOrder_snoc (h : resolveInOrder (order ++ [package]) = .ok resolved) :
    ∃ before merged, resolved = before ++ [merged] ∧ resolveInOrder order = .ok before ∧
      merge package (Package.children before package) = .ok merged := by
  rw [resolveInOrder_snoc] at h
  obtain ⟨before, hbefore, h⟩ := bind_eq_ok_iff.mp h
  obtain ⟨merged, hmerged, h⟩ := bind_eq_ok_iff.mp h
  cases h
  exact ⟨before, merged, rfl, hbefore, mapError_eq_ok_iff.mp hmerged⟩

theorem merged_of_resolveInOrder (h : resolveInOrder order = .ok resolved) :
    List.Forall₂ Merged order resolved := by
  induction order using List.reverseRecOn generalizing resolved with
  | nil =>
    cases h
    exact .nil
  | append_singleton order package ih =>
    obtain ⟨before, merged, rfl, hbefore, hmerge⟩ := exists_of_resolveInOrder_snoc h
    exact List.rel_append (ih hbefore) (.cons (merged_of_merge hmerge) .nil)

/-- The pass over packages that it has returned returns them again. -/
theorem resolveInOrder_again (h : resolveInOrder order = .ok resolved)
    (hsettled : ∀ package ∈ resolved, package.AllSettled) :
    resolveInOrder resolved = .ok resolved := by
  induction order using List.reverseRecOn generalizing resolved with
  | nil =>
    cases h
    rfl
  | append_singleton order package ih =>
    obtain ⟨before, merged, rfl, hbefore, hmerge⟩ := exists_of_resolveInOrder_snoc h
    obtain ⟨hfirst, hlast⟩ := List.forall_mem_append.mp hsettled
    have himports := (merged_of_merge hmerge).imports
    have hagain := merge_again hmerge (hlast merged (List.mem_singleton_self merged))
      fun child hchild ↦ hfirst child (mem_of_mem_children hchild)
    have hchildren : Package.children before merged = Package.children before package := by
      rw [Package.children, Package.children, himports]
    rw [resolveInOrder_snoc, ih hbefore hfirst]
    change ((merge merged (Package.children before merged)).mapError _ >>= _) = _
    rw [hchildren, hagain]
    rfl

/-- What resolution has made of a package, if anything. Header and imports are those of the
package. -/
def counterpart (resolved : List Package) (package : Package) : Package :=
  match byKey? package.header.key resolved with
  | some merged => { merged with header := package.header, imports := package.imports }
  | none => package

theorem counterpart_eq (hnodup : (resolved.map fun package ↦ package.header.key).Nodup)
    (hmem : merged ∈ resolved) (h : Merged package merged) :
    counterpart resolved package = merged := by
  have hfound : byKey? package.header.key resolved = some merged :=
    (Text.find?_key_eq_some_iff hnodup).mpr ⟨hmem, by rw [h.header]⟩
  rw [counterpart, hfound, ← h.header, ← h.imports]

theorem nodup_of_merged (h : List.Forall₂ Merged order resolved)
    (hnodup : (order.map fun package ↦ package.header.key).Nodup) :
    (resolved.map fun package ↦ package.header.key).Nodup := by
  rw [map_eq_map_of_forall₂ h fun package merged hmerged ↦ by rw [hmerged.header]]
  exact hnodup

theorem map_counterpart (h : List.Forall₂ Merged order resolved)
    (hnodup : (resolved.map fun package ↦ package.header.key).Nodup) :
    order.map (counterpart resolved) = resolved :=
  map_eq_of_forall₂ h fun _ _ hmem hmerged ↦ counterpart_eq hnodup hmem hmerged

/-- Imports lead to the same packages as before, resolved. -/
theorem portrays_counterpart (hsort : sort (indexPackages packages) roots = .ok order)
    (h : List.Forall₂ Merged order resolved) :
    Portrays (indexPackages packages) resolved roots (counterpart resolved) := by
  have hsorting := sorting_of_sort hsort
  have hnodup := nodup_of_merged h hsorting.ordered.nodup_keys
  refine ⟨fun package ↦ ?_, fun package ↦ ?_, fun key hnamed ↦ ?_⟩
  · unfold counterpart
    split <;> rfl
  · unfold counterpart
    split <;> rfl
  · obtain ⟨package, hfound⟩ := Option.isSome_iff_exists.mp (hsorting.resolvable.present key hnamed)
    have hreachable : Reachable (indexPackages packages) roots package := by
      rcases hnamed with ⟨self, hself, rfl⟩ | ⟨importer, himporter, self, hself, rfl⟩
      · exact .root hself hfound
      · exact .step himporter ⟨self, hself, hfound⟩
    obtain ⟨merged, hmem, hmerged⟩ := exists_right_of_forall₂ h (hsorting.mem_iff.mpr hreachable)
    have hkey : byKey? key resolved = some merged := by
      rw [← key_of_byKey? hfound, ← hmerged.header]
      exact (Text.find?_key_eq_some_iff hnodup).mpr ⟨hmem, rfl⟩
    rw [lookup_eq_ok_iff.mpr hfound, lookup_eq_ok_iff.mpr hkey, Except.map,
      counterpart_eq hnodup hmem hmerged]

/-- Resolved packages are in the order in which they were resolved. -/
theorem sort_packages_of_resolve {resolution : Resolution}
    (h : resolve roots packages = .ok resolution) :
    (resolution.packages.map fun package ↦ package.header.key).Nodup ∧
      sort (indexPackages resolution.packages) roots = .ok resolution.resolved := by
  obtain ⟨order, hsort, h⟩ := bind_eq_ok_iff.mp h
  obtain ⟨resolved, hresolved, h⟩ := bind_eq_ok_iff.mp h
  cases h
  have hmerged := merged_of_resolveInOrder hresolved
  have hnodup := nodup_of_merged hmerged (sorting_of_sort hsort).ordered.nodup_keys
  have hperm : (Resolution.packages { imports := roots, resolved }).Perm resolved :=
    Text.sortByName_perm _ resolved
  have hkeys := (hperm.map fun package ↦ package.header.key).nodup_iff.mpr hnodup
  refine ⟨hkeys, ?_⟩
  rw [indexPackages_eq_self hkeys, sort_perm hperm hkeys, (portrays_counterpart hsort hmerged).sort,
    hsort, Except.map, map_counterpart hmerged hnodup]

/-- Packages that have been resolved, with no value of a keyed state left open, are resolved to
themselves, in the same order. -/
theorem resolve_packages {resolution : Resolution} (h : resolve roots packages = .ok resolution)
    (hsettled : ∀ package ∈ resolution.packages, package.AllSettled) :
    resolve roots resolution.packages = .ok resolution := by
  have hsort := (sort_packages_of_resolve h).2
  obtain ⟨order, -, h⟩ := bind_eq_ok_iff.mp h
  obtain ⟨resolved, hresolved, h⟩ := bind_eq_ok_iff.mp h
  cases h
  rw [resolve, hsort]
  change (resolveInOrder resolved >>= _) = _
  rw [resolveInOrder_again hresolved fun package hpackage ↦
    hsettled package (Resolution.mem_packages.mpr hpackage)]
  rfl

/-! ### A resolution that runs -/

/-- The orders with the value of their state settled. -/
def resolvedOrders : Package :=
  { ordersPackage with
    types :=
      [{ name := "count", shape := .primitive .u32 },
        { name := "order", shape := .object [{ name := "id", type := "order-id" }] },
        { name := "order-id", shape := .primitive .string }]
    states := mergedOrderStates }

/-- The state of a function as the imported one. -/
def totalsState : StepState :=
  { name := "totals",
    resolved := some { name := "totals", type := { key := "order-id", value := .u32 } } }

/-- The bills with what they import, and the state of the function found among it. The type of the
state's value is not needed where the value is settled. -/
def resolvedBilling : Package :=
  { billingPackage with
    types :=
      [{ name := "order", shape := .object [{ name := "id", type := "order-id" }],
         origin := .imported },
        { name := "order-id", shape := .primitive .string }]
    states := mergedOrderStates
    functions := [{ operator := .map, step := { uses := "add-total", states := [totalsState] } }] }

theorem sort_billing : sort (indexPackages [billingPackage, ordersPackage]) [billingImport] =
    .ok [ordersPackage, billingPackage] := by
  have hlookup : lookup [billingPackage, ordersPackage] billingImport.package.key =
      .ok billingPackage := rfl
  have hbilling : dependencies [billingPackage, ordersPackage] billingPackage =
      .ok [ordersPackage] := rfl
  have horders : dependencies [billingPackage, ordersPackage] ordersPackage = .ok [] := rfl
  have hapart : byKey? ordersPackage.header.key [billingPackage] = none := rfl
  have hnone (key : String) : byKey? key [] = none := rfl
  rw [indexPackages_eq_self nodup_keys_billing]
  simp [sort, hlookup, visit, visitAll, hbilling, horders, hapart, hnone, bind, Except.bind,
    pure, Except.pure]

theorem merge_ordersPackage : merge ordersPackage [] = .ok resolvedOrders := by
  simp [merge, resolvedOrders, mergedOrderStates, ordersPackage, mergeTypesAndStates,
    Merging.addState, Merging.finish, Package.scope, Scope.lookup?, Scope.shape?, lookupType,
    Declarations.insertAll, Declarations.insert, Declarations.declared?, Declarations.toScope,
    Declarations.settle, Primitive.nativeNames, TypedState.namedType, TypedState.resolve,
    TypedState.valueShape, Text.sortByName, State.resolvePackage, State.resolvePackageStates,
    State.resolveFunctions, List.mergeSort, List.forM, bind, Except.bind, pure, Except.pure,
    Except.mapError]

theorem merge_billingPackage : merge billingPackage [resolvedOrders] = .ok resolvedBilling := by
  simp [merge, resolvedOrders, resolvedBilling, totalsState, mergedOrderStates, billingPackage,
    ordersPackage, localOrderTypes, ordersImport, mergeTypesAndStates, Merging.importFrom, find?,
    Merging.addTrees, insertTree, Merging.importState, stateReferences, Merging.addState,
    Merging.finish, Package.state?, Package.scope, Scope.tree, Scope.collect, Scope.collectAll,
    Scope.size, Scope.lookup?, Scope.shape?, Shape.references, lookupType, Declarations.insertAll,
    Declarations.insert, Declarations.replaced?, Declarations.declared?, Declarations.toScope,
    Declarations.settle, Primitive.nativeNames, TypedState.namedType, TypedState.resolve,
    TypedState.valueShape, Text.sortByName, List.mergeSort, State.resolvePackage,
    State.resolvePackageStates, State.resolveFunctions, State.resolveStepStates, List.forM, bind,
    Except.bind, pure, Except.pure, Except.mapError]

theorem resolve_billing : resolve [billingImport] [billingPackage, ordersPackage] =
    .ok { imports := [billingImport], resolved := [resolvedOrders, resolvedBilling] } := by
  have hchildren : Package.children [resolvedOrders] billingPackage = [resolvedOrders] := rfl
  have hfirst : resolveInOrder [ordersPackage] = .ok [resolvedOrders] := by
    change ((merge ordersPackage []).mapError _ >>= _) >>= _ = _
    rw [merge_ordersPackage]
    rfl
  have hboth := resolveInOrder_snoc [ordersPackage] billingPackage
  rw [hfirst] at hboth
  change _ = ((merge billingPackage (Package.children [resolvedOrders] billingPackage)).mapError
      _ >>= _) at hboth
  rw [hchildren, merge_billingPackage] at hboth
  rw [resolve, sort_billing]
  change (resolveInOrder ([ordersPackage] ++ [billingPackage]) >>= _) = _
  rw [hboth]
  rfl

/-- The resolved packages come back as they are, with the state of the function and the imported
types. -/
theorem resolve_packages_billing :
    resolve [billingImport] [billingPackage, ordersPackage] =
        .ok { imports := [billingImport], resolved := [resolvedOrders, resolvedBilling] } ∧
      (∀ package ∈ [resolvedOrders, resolvedBilling], package.AllSettled) ∧
      resolve [billingImport]
          (Resolution.packages
            { imports := [billingImport], resolved := [resolvedOrders, resolvedBilling] }) =
        .ok { imports := [billingImport], resolved := [resolvedOrders, resolvedBilling] } := by
  have hsettled : ∀ package ∈ [resolvedOrders, resolvedBilling], package.AllSettled := by
    refine List.forall_mem_cons.mpr ⟨⟨?_, ?_⟩, List.forall_mem_singleton.mpr ⟨?_, ?_⟩⟩ <;>
      simp [resolvedOrders, resolvedBilling, mergedOrderStates, NamedType.IsSettled,
        StateValue.isResolved]
  refine ⟨resolve_billing, hsettled, resolve_packages resolve_billing fun package hpackage ↦ ?_⟩
  exact hsettled package (Resolution.mem_packages.mp hpackage)

end Package

end FlowSpec
