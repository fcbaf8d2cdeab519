import FlowSpec.Proofs.Compiler.Steps
import FlowSpec.Proofs.Package.Functions

/-!
States that a service declares and an imported function brings along. A function's state is what its
package declares under the name, itself or through an import, with its value settled if the package
knows the type of the value (`narrows_of_importedFunction`). The pool of the service is compared
with it before the dataflow is resolved. So where both declare the state with the same key and
value, the two differ exactly if the value is a name that the package has settled.
-/

set_option autoImplicit false

namespace FlowSpec.Package

open Outcome State

variable {packages order children : List Package} {package merged : Package}
  {imports roots : List Import} {resolution : Resolution} {service : Service}
  {declared source typed : TypedState} {entry : PoolState} {error : ResolutionError}

/-! ### Conflicts -/

/-- The states that the functions called by a service bring along. -/
def broughtStates (imports : List Import) (packages : List Package) (service : Service) :
    List StepState :=
  service.operations.flatMap fun operation ↦ adoptedStates imports packages operation.step

theorem conflict_of_adoptStep {name : String} {operator : Operator} {step : Step}
    {pool : List PoolState}
    (h : (adoptStep name imports packages operator step).run pool = .error (.injection error))
    (hkind : error.kind = .conflict)
    (hentry : (pool.find? fun entry ↦ entry.name == error.state) = some entry) :
    ∃ state ∈ adoptedStates imports packages step, ∃ typed, state.resolved = some typed ∧
      typed.name = error.state ∧ entry.source ≠ .owned (some typed) := by
  rcases adoptStep_cases h with ⟨_, hfails, hother⟩ | ⟨joined, _, hinject, hfails⟩ | ⟨_, -, hadopts⟩
  · cases hfails
    exact absurd rfl (hother _)
  · cases hfails
    exact conflict_of_inject (congrArg Prod.snd hinject) hkind hentry
  · cases hadopts

theorem conflict_of_visitEach {name : String} {operations : List Operation} {pool : List PoolState}
    (h : (visitEach (adoptStep name imports packages) operations).run pool =
      .error (.injection error))
    (hkind : error.kind = .conflict)
    (hentry : (pool.find? fun entry ↦ entry.name == error.state) = some entry) :
    ∃ state ∈ operations.flatMap fun operation ↦ adoptedStates imports packages operation.step,
      ∃ typed, state.resolved = some typed ∧ typed.name = error.state ∧
      entry.source ≠ .owned (some typed) := by
  induction operations generalizing pool with
  | nil => cases h
  | cons operation rest ih =>
    rw [visitEach_cons] at h
    rcases bind_eq_error_iff.mp h with hfirst | ⟨⟨step, middle⟩, hfirst, h⟩
    · obtain ⟨state, hstate, htyped⟩ := conflict_of_adoptStep hfirst hkind hentry
      exact ⟨state, List.mem_append_left _ hstate, htyped⟩
    · rcases bind_eq_error_iff.mp h with hrest | ⟨⟨steps, last⟩, -, h⟩
      · -- the pool only grows behind its end, so the entry is still the first under its name
        obtain ⟨added, rfl⟩ := (adopted_of_adoptStep hfirst).2.grows
        obtain ⟨state, hstate, htyped⟩ :=
          ih hrest (by rw [List.find?_append, hentry, Option.some_or])
        exact ⟨state, List.mem_append_right _ hstate, htyped⟩
      · cases h

theorem conflict_of_adoptFunctions
    (h : adoptFunctions imports packages service = .error (.injection error))
    (hkind : error.kind = .conflict)
    (hentry : (service.states.find? fun entry ↦ entry.name == error.state) = some entry) :
    ∃ state ∈ broughtStates imports packages service, ∃ typed, state.resolved = some typed ∧
      typed.name = error.state ∧ entry.source ≠ .owned (some typed) := by
  obtain ⟨fill, -, hvisit⟩ := service.exists_fill
  rcases bind_eq_error_iff.mp h with hrun | ⟨⟨adopted, states⟩, -, h⟩
  · rw [hvisit, StateT.run_map] at hrun
    cases hsteps : (visitEach (adoptStep service.name imports packages) service.operations).run
      service.states with
    | ok result =>
      rw [hsteps] at hrun
      cases hrun
    | error cause =>
      rw [hsteps] at hrun
      cases hrun
      exact conflict_of_visitEach hsteps hkind hentry
  · cases h

/-! ### States of packages -/

/-- The state that a package has under a name before values are settled: its own, or one that
an import of it lists, as the imported package has it. -/
inductive DeclaresState (packages : List Package) : Package → String → TypedState → Prop
  | own {package : Package} {state : TypedState} (hstate : state ∈ package.states) :
      DeclaresState packages package state.name state
  | imported {package imported : Package} {self : Import} {name : String} {state : TypedState}
      (hself : self ∈ package.imports) (hname : name ∈ self.states)
      (hfound : byKey? self.package.key packages = some imported)
      (hstate : DeclaresState packages imported name state) :
      DeclaresState packages package name state

/-- The states of a merged package have different names. -/
theorem nodup_states_of_merge (h : merge package children = .ok merged) :
    (merged.states.map TypedState.name).Nodup := by
  obtain ⟨states, lookup, hmerge, hsettled⟩ := exists_of_merge h
  obtain ⟨merging, scope, -, hholds, hfinished⟩ := exists_merging hmerge
  rw [Merging.map_name_of_forall₂ hsettled, Merging.map_name_of_forall₂ hfinished.listed,
    hholds.names]
  exact nodup_eraseDups _

/-- A state that the package declares, or that an import offers, is found in the merged package
under its name. -/
theorem exists_state?_of_merge (h : merge package children = .ok merged) {state : TypedState}
    (hstate : state ∈ package.states ++ package.imports.flatMap (offeredStates children)) :
    ∃ typed, merged.state? state.name = some typed ∧
      (Shape.keyedState state.type).Narrows (.keyedState typed.type) := by
  obtain ⟨states, lookup, hmerge, hsettled⟩ := exists_of_merge h
  obtain ⟨merging, scope, -, hholds, hfinished⟩ := exists_merging hmerge
  obtain ⟨middle, hmiddle, hfirst⟩ := hfinished.exists_result hholds hstate
  obtain ⟨typed, htyped, hsecond⟩ := exists_right_of_forall₂ hsettled hmiddle
  have hname : typed.name = state.name := by
    rw [TypedState.name_of_resolve hsecond, TypedState.name_of_resolve hfirst]
  exact ⟨typed, (Text.find?_key_eq_some_iff (nodup_states_of_merge h)).mpr ⟨htyped, hname⟩,
    (TypedState.narrows_of_resolve hfirst).trans (TypedState.narrows_of_resolve hsecond)⟩

/-- A merged package has the state that it declares, with its value settled or not. -/
theorem DeclaresState.exists_state? {name : String} (h : DeclaresState packages package name source)
    (hordered : Ordered packages order) (hmem : package ∈ order)
    (hmerged : resolveRecursively packages package = .ok merged) :
    ∃ typed, merged.state? name = some typed ∧
      (Shape.keyedState source.type).Narrows (.keyedState typed.type) := by
  induction h generalizing merged with
  | own hstate =>
    obtain ⟨children, -, hmerge⟩ := exists_merge_of_resolveRecursively hordered hmem hmerged
    exact exists_state?_of_merge hmerge (List.mem_append_left _ hstate)
  | @imported package imported self name source hself hname hfound _ ih =>
    obtain ⟨children, hchildren, hmerge⟩ := exists_merge_of_resolveRecursively hordered hmem hmerged
    obtain ⟨child, raw, hchild, -, hraw, hrawMem, hresult⟩ :=
      exists_child hordered hmem hchildren hmerge hself
    obtain rfl : imported = raw := Option.some.inj (hfound.symm.trans hraw)
    obtain ⟨middle, hmiddle, hfirst⟩ := ih hrawMem hresult
    have hoffered : middle ∈ offeredStates children self := by
      rw [offeredStates, hchild]
      exact List.mem_filterMap.mpr ⟨name, hname, hmiddle⟩
    obtain ⟨typed, htyped, hsecond⟩ :=
      exists_state?_of_merge hmerge
        (List.mem_append_right _ (List.mem_flatMap.mpr ⟨self, hself, hoffered⟩))
    have hmiddleName : middle.name = name := by simpa using List.find?_some hmiddle
    exact ⟨typed, hmiddleName ▸ htyped, hfirst.trans hsecond⟩

/-! ### States of functions -/

/-- The states of a function are those that its merged package has under their names. -/
theorem state?_of_merge {function : Operation} {state : StepState}
    (h : merge package children = .ok merged) (hunlinked : package.Unlinked)
    (hfunction : function ∈ merged.functions) (hstate : state ∈ function.step.states)
    (hresolved : state.resolved = some typed) : merged.state? state.name = some typed := by
  obtain ⟨before, hbefore, hsteps⟩ :=
    exists_left_of_forall₂ (forall₂_of_resolveFunctions (functions_of_merge h).2) hfunction
  obtain ⟨named, hnamed, hstep⟩ :=
    exists_left_of_forall₂ (forall₂_of_resolveStepStates hsteps) hstate
  obtain ⟨found, hfound, rfl⟩ :=
    (stepState_eq_ok_iff (hunlinked before hbefore named hnamed)).mp hstep
  cases hresolved
  exact hfound

/-- An imported function is one of the package that it names, as recursion resolves it. -/
theorem exists_origin_of_importedFunction {uses : String} {function : Operation}
    (h : resolve roots packages = .ok resolution)
    (hsort : sort (indexPackages packages) roots = .ok order)
    (hfunction : importedFunction uses roots resolution.packages = .ok function) :
    ∃ imported package merged, function.step.imported = some imported ∧
      byKey? imported.package.key packages = some package ∧ package ∈ order ∧
      resolveRecursively packages package = .ok merged ∧
      ∃ found ∈ merged.functions, found.step.states = function.step.states := by
  obtain ⟨links, self, wanted, merged, found, hchain, hfound, rfl⟩ :=
    exists_chain_of_importedFunction h hfunction
  have hlast := hchain.find?_last
  have hheader : merged.header = self.package := by simpa using List.find?_some hlast
  obtain ⟨package, hreachable, hmerged⟩ :=
    (mem_packages_iff_of_resolve hsort h).mp (List.mem_of_find?_eq_some hlast)
  have hmem := (mem_iff_reachable_of_sort hsort).mpr hreachable
  refine ⟨_, package, merged, rfl, ?_, hmem, hmerged, found, List.mem_of_find?_eq_some hfound, rfl⟩
  rw [← hheader, header_of_resolveRecursively (ordered_of_sort hsort) hmem hmerged]
  exact hreachable.indexed

/-- The state of an imported function is what its package declares, with its value settled or
not. -/
theorem narrows_of_importedFunction {uses : String} {function : Operation} {state : StepState}
    {imported : FunctionOrigin} (h : resolve roots packages = .ok resolution)
    (hunlinked : ∀ package ∈ packages, package.Unlinked)
    (hfunction : importedFunction uses roots resolution.packages = .ok function)
    (himported : function.step.imported = some imported)
    (hpackage : byKey? imported.package.key packages = some package)
    (hsource : DeclaresState packages package state.name source)
    (hstate : state ∈ function.step.states) (hresolved : state.resolved = some typed) :
    (Shape.keyedState source.type).Narrows (.keyedState typed.type) := by
  obtain ⟨order, hsort, -⟩ := bind_eq_ok_iff.mp h
  have hordered := ordered_of_sort hsort
  obtain ⟨origin, raw, merged, horigin, hraw, hmem, hmerged, found, hfound, hsame⟩ :=
    exists_origin_of_importedFunction h hsort hfunction
  obtain rfl : origin = imported := Option.some.inj (horigin.symm.trans himported)
  obtain rfl : raw = package := Option.some.inj (hraw.symm.trans hpackage)
  obtain ⟨other, hother, hnarrows⟩ := hsource.exists_state? hordered hmem hmerged
  obtain ⟨children, -, hmerge⟩ := exists_merge_of_resolveRecursively hordered hmem hmerged
  have hraw := hunlinked raw (hordered.indexed raw hmem).mem
  have htyped := state?_of_merge hmerge hraw hfound (hsame ▸ hstate) hresolved
  rw [hother, Option.some.injEq] at htyped
  rwa [← htyped]

/-! ### States that are declared alike -/

/-- Wherever a function that the service calls uses a state of the declared one's name, the package
of the function declares that state with the same key and value. -/
def DeclaredAlike (roots : List Import) (packages resolved : List Package) (service : Service)
    (declared : TypedState) : Prop :=
  ∀ operation ∈ service.operations, ∀ function,
    importedFunction operation.step.uses roots resolved = .ok function →
    (∃ state ∈ function.step.states, state.name = declared.name) →
      ∃ imported package source, function.step.imported = some imported ∧
        byKey? imported.package.key packages = some package ∧
        DeclaresState packages package declared.name source ∧ source.type = declared.type

/-- The value is open where the service declares the state, and settled in a state of its name that
a function brings along; the keys are the same. -/
def SettledByFunction (imports : List Import) (packages : List Package) (service : Service)
    (declared : TypedState) : Prop :=
  ∃ state ∈ broughtStates imports packages service, ∃ typed, state.resolved = some typed ∧
    typed.name = declared.name ∧
    ∃ key name value, declared.type = { key, value := .unresolved name } ∧
    typed.type = { key, value } ∧
      value.isResolved

theorem exists_of_mem_broughtStates {state : StepState}
    (h : state ∈ broughtStates imports packages service) :
    ∃ operation ∈ service.operations, ∃ function,
      importedFunction operation.step.uses imports packages = .ok function ∧
      state ∈ function.step.states := by
  obtain ⟨operation, hoperation, hstate⟩ := List.mem_flatMap.mp h
  unfold adoptedStates at hstate
  split at hstate
  · rename_i function hfunction
    exact ⟨operation, hoperation, function, hfunction, hstate⟩
  · simp at hstate

theorem settledByFunction_of_conflict (h : resolve roots packages = .ok resolution)
    (hunlinked : ∀ package ∈ packages, package.Unlinked)
    (howned : (service.states.find? fun entry ↦ entry.name == declared.name) =
      some (ownEntry declared))
    (halike : DeclaredAlike roots packages resolution.packages service declared)
    (herror : adoptFunctions roots resolution.packages service = .error (.injection error))
    (hkind : error.kind = .conflict) (hname : error.state = declared.name) :
    SettledByFunction roots resolution.packages service declared := by
  rw [← hname] at howned
  obtain ⟨state, hstate, typed, hresolved, htyped, hne⟩ :=
    conflict_of_adoptFunctions herror hkind howned
  obtain ⟨operation, hoperation, function, hfunction, hmem⟩ := exists_of_mem_broughtStates hstate
  obtain ⟨other, hother, hstateName⟩ :=
    named_of_importedFunction hfunction (linked_of_resolve h hunlinked) state hmem
  obtain rfl : other = typed := Option.some.inj (hother.symm.trans hresolved)
  have hsame : state.name = declared.name := by rw [← hstateName, htyped, hname]
  obtain ⟨imported, package, source, himported, hpackage, hsource, htype⟩ :=
    halike operation hoperation function hfunction ⟨state, hmem, hsame⟩
  have hnarrows :=
    narrows_of_importedFunction h hunlinked hfunction himported hpackage (hsame ▸ hsource)
      hmem hresolved
  rw [htype] at hnarrows
  have hdiffers : Shape.keyedState declared.type ≠ .keyedState other.type := by
    intro heq
    have hequal : declared = other :=
      (TypedState.mk.injEq _ _ _ _).mpr ⟨(htyped.trans hname).symm, Shape.keyedState.inj heq⟩
    exact hne (hequal ▸ rfl)
  obtain ⟨key, name, value, hopen, hsettled, hvalue⟩ := hnarrows.exists_of_ne hdiffers
  exact ⟨state, hstate, other, hresolved, htyped.trans hname, key, name, value,
    Shape.keyedState.inj hopen, Shape.keyedState.inj hsettled, hvalue⟩

/-- A state that joins the pool has to be the entry that is there under its name, and this one is
not. -/
theorem adoptFunctions_ne_ok
    (howned : (service.states.find? fun entry ↦ entry.name == declared.name) =
      some (ownEntry declared))
    (h : SettledByFunction imports packages service declared) (adopted : Service) :
    adoptFunctions imports packages service ≠ .ok adopted := by
  intro hadopted
  obtain ⟨state, hstate, typed, hresolved, hname, key, name, value, hopen, hsettled, hvalue⟩ := h
  have hjoined := (adopted_of_adoptFunctions hadopted).2
  obtain ⟨other, hother, hfound⟩ := hjoined.found state hstate
  obtain rfl : other = typed := Option.some.inj (hother.symm.trans hresolved)
  obtain ⟨added, hadded⟩ := hjoined.grows
  rw [← hadded, hname, List.find?_append, howned, Option.some_or] at hfound
  have hentry : StateSource.owned (some declared) = .owned (some other) :=
    congrArg PoolState.source (Option.some.inj hfound)
  obtain rfl : declared = other := Option.some.inj (StateSource.owned.inj hentry)
  rw [hsettled] at hopen
  cases hopen
  cases hvalue

/-- A state that a service owns and the packages of its functions declare with the same key and
value is in the way of the functions only if its value is open in the service and settled in a
package; and then the service is refused. -/
theorem adoptFunctions_of_declaredAlike (h : resolve roots packages = .ok resolution)
    (hunlinked : ∀ package ∈ packages, package.Unlinked)
    (howned : (service.states.find? fun entry ↦ entry.name == declared.name) =
      some (ownEntry declared))
    (halike : DeclaredAlike roots packages resolution.packages service declared) :
    (∀ error, adoptFunctions roots resolution.packages service = .error (.injection error) →
      error.kind = .conflict → error.state = declared.name →
        SettledByFunction roots resolution.packages service declared) ∧
      (SettledByFunction roots resolution.packages service declared →
        ∀ adopted, adoptFunctions roots resolution.packages service ≠ .ok adopted) :=
  ⟨fun _ herror hkind hname ↦
      settledByFunction_of_conflict h hunlinked howned halike herror hkind hname,
    adoptFunctions_ne_ok howned⟩

/-! ### Totals that a service and a package declare -/

open Compiler

/-- Owns the totals in the words of the package. -/
def totalsService : Service := countService calledStep [ownEntry (totals (.unresolved "amount"))]

theorem packages_counting : (countResolution true).packages = [resolvedCounting true] :=
  List.mergeSort_singleton _

theorem adoptFunctions_totals :
    adoptFunctions [countingImport] (countResolution true).packages totalsService =
      .error (.injection { kind := .conflict, service := "count", state := "totals" }) := by
  rw [packages_counting]
  rfl

/-- The service and the package declare the totals in the same words, and the dataflow's scope gives
them the value that they have in the package; the service is refused all the same. -/
theorem totals_declared_alike_conflict :
    resolve [countingImport] [countingPackage true] = .ok (countResolution true) ∧
      DeclaresState [countingPackage true] (countingPackage true) "totals"
        (totals (.unresolved "amount")) ∧
      totalsService.states = [ownEntry (totals (.unresolved "amount"))] ∧
      (totals (.unresolved "amount")).resolve countScope.shape? = .ok (totals .u32) ∧
      (resolvedCounting true).states = [totals .u32] ∧
      adoptFunctions [countingImport] (countResolution true).packages totalsService =
        .error (.injection { kind := .conflict, service := "count", state := "totals" }) := by
  have hdeclares :=
    @DeclaresState.own [countingPackage true] (countingPackage true) (totals (.unresolved "amount"))
      List.mem_cons_self
  exact ⟨resolve_counting true, hdeclares, rfl, rfl, rfl, adoptFunctions_totals⟩

theorem declaredAlike_totals :
    DeclaredAlike [countingImport] [countingPackage true] (countResolution true).packages
      totalsService (totals (.unresolved "amount")) := by
  have hadd : importedFunction "add" [countingImport] [resolvedCounting true] =
      .ok { operator := .map, step := adoptedAdd true } := rfl
  intro operation hoperation function hfunction _
  obtain rfl : operation = { operator := .map, step := calledStep } :=
    List.mem_singleton.mp hoperation
  rw [packages_counting] at hfunction
  cases hadd.symm.trans hfunction
  exact ⟨_, countingPackage true, totals (.unresolved "amount"), rfl, rfl,
    .own List.mem_cons_self, rfl⟩

/-- The value is open in the service and settled in the package. -/
theorem adoptFunctions_of_declaredAlike_totals :
    resolve [countingImport] [countingPackage true] = .ok (countResolution true) ∧
      (∀ package ∈ [countingPackage true], package.Unlinked) ∧
      (totalsService.states.find? fun entry ↦ entry.name == "totals") =
        some (ownEntry (totals (.unresolved "amount"))) ∧
      DeclaredAlike [countingImport] [countingPackage true]
        (countResolution true).packages totalsService (totals (.unresolved "amount")) ∧
      SettledByFunction [countingImport] (countResolution true).packages totalsService
        (totals (.unresolved "amount")) ∧
      ∀ adopted, adoptFunctions [countingImport] (countResolution true).packages totalsService ≠
        .ok adopted := by
  have hunlinked : ∀ package ∈ [countingPackage true], package.Unlinked := by
    simp [Unlinked, countingPackage, addStep]
  obtain ⟨hsettled, hrefused⟩ :=
    adoptFunctions_of_declaredAlike (resolve_counting true) hunlinked rfl declaredAlike_totals
  have hopen := hsettled _ adoptFunctions_totals rfl rfl
  exact ⟨resolve_counting true, hunlinked, rfl, declaredAlike_totals, hopen, hrefused hopen⟩

end FlowSpec.Package
