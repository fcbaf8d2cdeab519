import Mathlib.Data.List.Forall2
import FlowSpec.Proofs.Service.Traversal
import FlowSpec.State.Resolution

/-!
What the resolution of states makes of the steps. A step is changed in its states only, and the
first state that is not found ends the changes for its service. So a dataflow whose resolution finds
no error has the services that it had, with other pools and with every state of every step resolved.
-/

set_option autoImplicit false

namespace FlowSpec.State

/-! ### Steps -/

theorem resolved_of_resolveStepStates {typed : List TypedState} {states : List StepState}
    (h : (resolveStepStates typed states).2 = none) :
    ∀ state ∈ (resolveStepStates typed states).1, state.resolved.isSome := by
  induction states with
  | nil => simp [resolveStepStates]
  | cons state rest ih =>
    by_cases hresolved : state.resolved.isSome
    · simp only [resolveStepStates, hresolved, if_true] at h ⊢
      exact List.forall_mem_cons.mpr ⟨hresolved, ih h⟩
    · cases hfind : typed.find? fun other ↦ other.name == state.name with
      | none => simp [resolveStepStates, hresolved, hfind] at h
      | some found =>
        simp only [resolveStepStates, hresolved, hfind] at h ⊢
        exact List.forall_mem_cons.mpr ⟨rfl, ih h⟩

section Visit

variable (typed : List TypedState) (service : String)

/-- The step with those of its states resolved that are found among typed states. -/
def settleStep (step : Step) : Step :=
  { step with states := (resolveStepStates typed step.states).1 }

/-- The steps of operations after a visit that starts with an earlier error or none, and the error
it leaves. -/
def settleEach (operations : List Operation) (error : Option ResolutionError) :
    List Step × Option ResolutionError :=
  (visitEach (fun _ step ↦ resolveStep typed service step) operations).run error

theorem settleEach_cons_of_failed (operation : Operation) (rest : List Operation)
    (error : ResolutionError) :
    settleEach typed service (operation :: rest) (some error) =
      (operation.step :: (settleEach typed service rest (some error)).1,
        (settleEach typed service rest (some error)).2) := by
  rw [settleEach, visitEach_cons]
  rfl

theorem settleEach_cons {operation : Operation} (rest : List Operation)
    {error : Option ResolutionError}
    (h : (resolveStepStates typed operation.step.states).2.map
      (fun error ↦ { error with service }) = error) :
    settleEach typed service (operation :: rest) none =
      (settleStep typed operation.step :: (settleEach typed service rest error).1,
        (settleEach typed service rest error).2) := by
  rw [settleEach, visitEach_cons, ← h]
  rfl

theorem settleEach_of_failed (error : ResolutionError) (operations : List Operation) :
    settleEach typed service operations (some error) =
      (operations.map Operation.step, some error) := by
  induction operations with
  | nil => rfl
  | cons operation rest ih => rw [settleEach_cons_of_failed, ih, List.map_cons]

/-- Steps that are visited without an error are settled, and every state of theirs is found. -/
theorem settled_of_settleEach {operations : List Operation}
    (h : (settleEach typed service operations none).2 = none) :
    (settleEach typed service operations none).1 =
        operations.map (fun operation ↦ settleStep typed operation.step) ∧
      ∀ operation ∈ operations, (resolveStepStates typed operation.step.states).2 = none := by
  induction operations with
  | nil => exact ⟨rfl, by simp⟩
  | cons operation rest ih =>
    cases hfound : (resolveStepStates typed operation.step.states).2 with
    | some error =>
      rw [settleEach_cons typed service rest (congrArg _ hfound), Option.map_some,
        settleEach_of_failed] at h
      cases h
    | none =>
      rw [settleEach_cons typed service rest (congrArg _ hfound), Option.map_none] at h ⊢
      obtain ⟨hrest, hothers⟩ := ih h
      refine ⟨?_, List.forall_mem_cons.mpr ⟨hfound, hothers⟩⟩
      rw [hrest, List.map_cons]

/-- A visit in which every state is found ends without an error. -/
theorem snd_settleEach_of_found {operations : List Operation}
    (h : ∀ operation ∈ operations, (resolveStepStates typed operation.step.states).2 = none) :
    (settleEach typed service operations none).2 = none := by
  induction operations with
  | nil => rfl
  | cons operation rest ih =>
    obtain ⟨hoperation, hrest⟩ := List.forall_mem_cons.mp h
    rw [settleEach_cons typed service rest (congrArg _ hoperation), Option.map_none]
    exact ih hrest

end Visit

/-! ### Services -/

/-- A service becomes another one by a change of its pool and of the states of its steps, which are
all resolved. -/
def ResolvesTo (service result : Service) : Prop :=
  ∃ (pool : List PoolState) (settle : Step → List StepState),
    result = Service.mapSteps (retie settle) { service with states := pool } ∧
    ∀ operation ∈ service.operations, ∀ state ∈ settle operation.step, state.resolved.isSome

/-- Resolving the steps of a service is a visit of its operations, and what becomes of the service
depends on the steps alone. -/
theorem exists_fill_resolveSteps (service : Service) : ∃ fill : List Step → Service,
    (∀ f : Operator → Step → Step,
      fill (service.operations.map fun operation ↦ f operation.operator operation.step) =
      service.mapSteps f) ∧
    resolveSteps service =
      (fill (settleEach (typedStates service.states) service.name service.operations none).1,
        (settleEach (typedStates service.states) service.name service.operations none).2) := by
  obtain ⟨fill, hmap, hfill⟩ := service.exists_fill
  refine ⟨fill, hmap, ?_⟩
  rw [resolveSteps, hfill]
  rfl

theorem resolvesTo_of_resolveSteps {service result : Service}
    (h : resolveSteps service = (result, none)) :
    ResolvesTo service result := by
  obtain ⟨fill, hmap, hrun⟩ := exists_fill_resolveSteps service
  obtain ⟨hresult, herror⟩ := Prod.mk.inj (hrun.symm.trans h)
  obtain ⟨hsteps, hfound⟩ := settled_of_settleEach _ _ herror
  refine ⟨service.states, fun step ↦ (resolveStepStates (typedStates service.states) step.states).1,
    ?_, ?_⟩
  · rw [← hresult, hsteps]
    exact hmap fun _ step ↦ settleStep (typedStates service.states) step
  · exact fun operation hoperation ↦ resolved_of_resolveStepStates (hfound operation hoperation)

/-! ### Dataflows -/

/-- A change of pools leaves all else of the services. -/
theorem fst_visitPools (change : String → List PoolState → List PoolState × Option ResolutionError)
    (services : List Service) : (visitPools change services).1 =
      services.map fun service ↦
        { service with states := (change service.name service.states).1 } := by
  simp [visitPools, visitServices]

theorem resolveSteps_of_visitServices {services : List Service}
    (h : (visitServices resolveSteps services).2 = []) (service : Service)
    (hservice : service ∈ services) :
    resolveSteps service = ((resolveSteps service).1, none) := by
  have hnone := List.filterMap_eq_nil_iff.mp h _ (List.mem_map_of_mem hservice)
  exact Prod.ext rfl hnone

/-- Resolution without an error keeps the topics of a dataflow and resolves every service. -/
theorem resolvesTo_of_resolveDataflow {lookup : String → Option Shape}
    {dataflow resolved : Dataflow} (h : resolveDataflow lookup dataflow = (resolved, [])) :
    resolved.topics = dataflow.topics ∧
      List.Forall₂ ResolvesTo dataflow.services resolved.services := by
  unfold resolveDataflow at h
  dsimp only at h
  split_ifs at h with hpools
  · obtain ⟨rfl, herrors⟩ := Prod.mk.inj h
    refine ⟨rfl, ?_⟩
    have hresolved := resolveSteps_of_visitServices herrors
    simp only [visitServices, fst_visitPools, List.map_map] at hresolved ⊢
    rw [List.forall₂_map_right_iff, List.forall₂_same]
    intro service hservice
    have h := resolvesTo_of_resolveSteps (hresolved _ (List.mem_map_of_mem hservice))
    -- The pool has changed twice on the way, and what a service may resolve to leaves its pool
    -- open.
    exact h
  · obtain ⟨rfl, herrors⟩ := Prod.mk.inj h
    rw [List.append_eq_nil_iff] at herrors
    simp [herrors] at hpools

/-! ### Owned states -/

/-- The names of the states that a pool owns. -/
def ownedStates (pool : List PoolState) : List String :=
  (pool.filterMap PoolState.ownedType?).map NamedType.name

theorem ownedStates_cons (state : PoolState) (rest : List PoolState) :
    ownedStates (state :: rest) = ownedStates [state] ++ ownedStates rest := by
  cases hstate : state.ownedType? <;> simp [ownedStates, hstate]

theorem ownedStates_resolveOwned (lookup : String → Option Shape) (service : String)
    (pool : List PoolState) :
    ownedStates (resolveOwned lookup service pool).1 = ownedStates pool := by
  induction pool with
  | nil => rfl
  | cons state rest ih =>
    rw [resolveOwned]
    dsimp only
    split
    next typed hsource =>
      split
      next settled hsettled =>
        rw [ownedStates_cons, ih, ownedStates_cons state]
        simp [ownedStates, PoolState.ownedType?, hsource]
      next => rfl
    next => rw [ownedStates_cons, ih, ← ownedStates_cons]

theorem ownedStates_resolveReferences (dataflow : Dataflow) (service : String)
    (pool : List PoolState) :
    ownedStates (resolveReferences dataflow service pool).1 = ownedStates pool := by
  induction pool with
  | nil => rfl
  | cons state rest ih =>
    rw [resolveReferences]
    dsimp only
    split
    next target typed hsource =>
      split
      next found hfound =>
        rw [ownedStates_cons, ih, ownedStates_cons state]
        simp [ownedStates, PoolState.ownedType?, hsource]
      next => rfl
    next => rw [ownedStates_cons, ih, ← ownedStates_cons]

theorem states_resolveSteps (service : Service) :
    (resolveSteps service).1.states = service.states := rfl

/-- Resolution keeps the types of a dataflow and the names of the states that its services own. -/
theorem ownedStates_of_resolveDataflow {lookup : String → Option Shape}
    {dataflow resolved : Dataflow} {errors : List ResolutionError}
    (h : resolveDataflow lookup dataflow = (resolved, errors)) :
    resolved.types = dataflow.types ∧
      resolved.services.map (fun service ↦ ownedStates service.states) =
      dataflow.services.map fun service ↦ ownedStates service.states := by
  unfold resolveDataflow at h
  dsimp only at h
  split_ifs at h with hpools
  all_goals
    obtain ⟨rfl, -⟩ := Prod.mk.inj h
    simp [visitServices, fst_visitPools, ownedStates_resolveOwned, ownedStates_resolveReferences,
      states_resolveSteps]

end FlowSpec.State
