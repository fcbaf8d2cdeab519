import FlowSpec.Package.Function
import FlowSpec.Proofs.Package.Idempotence
import FlowSpec.Proofs.State.Joining

/-!
Steps that call imported functions. A function of a resolved package has states that were found
among those of its package, under their names. A step that calls one takes its states as they are,
and they join the pool of the service: the pool grows behind its end, and an entry that is there
already under the name of a state is the state. What a step becomes depends on the step alone, so
adoption is a change of all steps.
-/

set_option autoImplicit false

namespace FlowSpec.State

variable {states : List StepState}

/-! ### States found under their names -/

/-- The states are resolved to typed states of their names. -/
def Named (states : List StepState) : Prop :=
  ∀ state ∈ states, ∃ typed, state.resolved = some typed ∧ typed.name = state.name

/-- A state that was not resolved before takes the typed state that is found under its name. -/
theorem stepState_eq_ok_iff {typed : List TypedState} {state result : StepState}
    (h : state.resolved = none) :
    stepState typed state = .ok result ↔
      ∃ found, (typed.find? fun other ↦ other.name == state.name) = some found ∧
      result = { state with resolved := some found } := by
  unfold stepState
  cases typed.find? fun other ↦ other.name == state.name <;> simp [h, eq_comm]

theorem forall₂_of_resolveStepStates {typed : List TypedState} {results : List StepState}
    (h : resolveStepStates typed states = (results, none)) :
    List.Forall₂ (fun state result ↦ stepState typed state = .ok result) states results := by
  rwa [resolveStepStates_eq, passUntil_eq_iff] at h

theorem named_of_resolveStepStates {typed : List TypedState} {results : List StepState}
    (h : resolveStepStates typed states = (results, none))
    (hunresolved : ∀ state ∈ states, state.resolved = none) :
    Named results := by
  intro result hresult
  obtain ⟨state, hstate, hstep⟩ :=
    Outcome.exists_left_of_forall₂ (forall₂_of_resolveStepStates h) hresult
  obtain ⟨found, hfound, rfl⟩ := (stepState_eq_ok_iff (hunresolved state hstate)).mp hstep
  exact ⟨found, rfl, by simpa using List.find?_some hfound⟩

end FlowSpec.State

namespace FlowSpec.Package

open Outcome State

variable {package merged : Package} {packages children : List Package} {imports roots : List Import}

/-! ### Functions of resolved packages -/

/-- The functions of a package have states that are not resolved. -/
def Unlinked (package : Package) : Prop :=
  ∀ function ∈ package.functions, ∀ state ∈ function.step.states, state.resolved = none

/-- The functions of a package have states that are resolved under their names. -/
def Linked (package : Package) : Prop := ∀ function ∈ package.functions, Named function.step.states

theorem linked_of_merge (h : merge package children = .ok merged) (hunlinked : package.Unlinked) :
    merged.Linked := by
  intro function hfunction
  obtain ⟨before, hbefore, hsteps⟩ :=
    exists_left_of_forall₂ (forall₂_of_resolveFunctions (functions_of_merge h).2) hfunction
  exact named_of_resolveStepStates hsteps (hunlinked before hbefore)

/-- Resolution links the functions of all packages. -/
theorem linked_of_resolve {resolution : Resolution} (h : resolve roots packages = .ok resolution)
    (hunlinked : ∀ package ∈ packages, package.Unlinked) :
    ∀ package ∈ resolution.packages, package.Linked := by
  obtain ⟨order, hsort, -⟩ := bind_eq_ok_iff.mp h
  intro resolved hresolved
  obtain ⟨package, hreachable, hrecursive⟩ := (mem_packages_iff_of_resolve hsort h).mp hresolved
  obtain ⟨children, -, hmerge⟩ := exists_merge_of_resolveRecursively (ordered_of_sort hsort)
    ((mem_iff_reachable_of_sort hsort).mpr hreachable) hrecursive
  exact linked_of_merge hmerge (hunlinked package hreachable.indexed.mem)

/-! ### Functions that steps call -/

theorem mem_of_findFunction {fuel : Nat} {place uses : String} {function : Operation}
    (h : findFunction packages fuel place uses imports = .ok function) :
    ∃ package ∈ packages, ∃ found ∈ package.functions,
      found.step.states = function.step.states := by
  induction fuel generalizing place uses imports with
  | zero => cases h
  | succ fuel ih =>
    rw [findFunction] at h
    obtain ⟨⟨self, wanted⟩, -, h⟩ := bind_eq_ok_iff.mp h
    dsimp only at h
    cases hpackage : find? self.package packages with
    | none =>
      rw [hpackage] at h
      cases h
    | some package =>
      simp only [hpackage] at h
      cases hfound : package.function? wanted.name with
      | none =>
        simp only [hfound] at h
        exact ih h
      | some found =>
        simp only [hfound] at h
        cases h
        exact ⟨package, List.mem_of_find?_eq_some hpackage, found, List.mem_of_find?_eq_some hfound,
          rfl⟩

theorem named_of_importedFunction {uses : String} {function : Operation}
    (h : importedFunction uses imports packages = .ok function)
    (hlinked : ∀ package ∈ packages, package.Linked) :
    Named function.step.states := by
  obtain ⟨package, hpackage, found, hfound, hsame⟩ := mem_of_findFunction h
  rw [← hsame]
  exact hlinked package hpackage found hfound

theorem importForFunction_of_unlisted {uses : String}
    (h : imports.any (fun self ↦ (self.function? uses).isSome) = false) :
    importForFunction uses imports = .error (.unknownFunction uses) := by
  induction imports with
  | nil => rfl
  | cons self rest ih =>
    rw [List.any_cons, Bool.or_eq_false_iff] at h
    have hself : self.function? uses = none := by simpa using h.1
    rw [importForFunction, hself]
    exact ih h.2

/-- A function that no import lists is not found. -/
theorem importedFunction_of_unlisted {uses : String}
    (h : imports.any (fun self ↦ (self.function? uses).isSome) = false) :
    importedFunction uses imports packages = .error (.unknownFunction uses) := by
  rw [importedFunction, findFunction, importForFunction_of_unlisted h]
  rfl

/-! ### Adoption -/

/-- A step as the function that it calls declares it, if the function is imported. -/
def adoptedStep (imports : List Import) (packages : List Package) (step : Step) : Step :=
  match importedFunction step.uses imports packages with
  | .ok function =>
    { step with inputs := function.step.inputs, output := function.step.output,
                states := function.step.states, imported := function.step.imported }
  | .error _ => step

/-- The states that a step brings along. -/
def adoptedStates (imports : List Import) (packages : List Package) (step : Step) :
    List StepState :=
  match importedFunction step.uses imports packages with
  | .ok function => function.step.states
  | .error _ => []

theorem uses_adoptedStep (step : Step) : (adoptedStep imports packages step).uses = step.uses := by
  unfold adoptedStep
  split <;> rfl

/-- Adoption fails over the function itself, or the states that the step brings along are injected
into the pool. -/
theorem adoptStep_cases {service : String} {operator : Operator} {step : Step}
    {pool : List PoolState} {outcome : Except Error (Step × List PoolState)}
    (h : (adoptStep service imports packages operator step).run pool = outcome) :
    (∃ error, outcome = .error error ∧ ∀ cause, error ≠ .injection cause) ∨
    (∃ joined cause, inject service pool (adoptedStates imports packages step) =
      (joined, some cause) ∧ outcome = .error (.injection cause)) ∨
    ∃ joined, inject service pool (adoptedStates imports packages step) = (joined, none) ∧
      outcome = .ok (adoptedStep imports packages step, joined) := by
  subst h
  unfold adoptStep adoptedStep adoptedStates
  cases hlisted : imports.any fun self ↦ (self.function? step.uses).isSome with
  | false =>
    rw [importedFunction_of_unlisted hlisted]
    exact .inr (.inr ⟨pool, rfl, rfl⟩)
  | true =>
    cases importedFunction step.uses imports packages with
    | error error => exact .inl ⟨.inService service error, rfl, nofun⟩
    | ok function =>
      by_cases hoperator : function.operator = operator
      · simp only [hoperator, ne_eq, not_true_eq_false, if_false, Bool.not_true, Bool.false_eq_true]
        rw [StateT.run_bind, StateT.run_get, pure_bind]
        rcases inject service pool function.step.states with ⟨joined, _ | cause⟩
        · exact .inr (.inr ⟨joined, rfl, rfl⟩)
        · exact .inr (.inl ⟨joined, cause, rfl, rfl⟩)
      · simp only [hoperator, ne_eq, not_false_eq_true, if_true]
        exact .inl ⟨.operator step.uses operator function.operator, rfl, nofun⟩

theorem adopted_of_adoptStep {service : String} {operator : Operator} {step result : Step}
    {pool after : List PoolState}
    (h : (adoptStep service imports packages operator step).run pool = .ok (result, after)) :
    result = adoptedStep imports packages step ∧
      Joined pool (adoptedStates imports packages step) after := by
  rcases adoptStep_cases h with ⟨_, hfails, -⟩ | ⟨_, _, -, hfails⟩ | ⟨joined, hinject, hadopts⟩
  · cases hfails
  · cases hfails
  · cases hadopts
    exact ⟨rfl, joined_of_inject hinject⟩

theorem adopted_of_visitEach {service : String} {operations : List Operation} {steps : List Step}
    {pool after : List PoolState}
    (h : (visitEach (adoptStep service imports packages) operations).run pool =
      .ok (steps, after)) :
    steps = operations.map (fun operation ↦ adoptedStep imports packages operation.step) ∧
      Joined pool (operations.flatMap fun operation ↦
        adoptedStates imports packages operation.step) after := by
  induction operations generalizing pool steps with
  | nil =>
    cases h
    exact ⟨rfl, .refl _⟩
  | cons operation rest ih =>
    rw [visitEach_cons] at h
    obtain ⟨⟨step, middle⟩, hstep, h⟩ := bind_eq_ok_iff.mp h
    obtain ⟨⟨others, last⟩, hothers, h⟩ := bind_eq_ok_iff.mp h
    cases h
    obtain ⟨rfl, hjoined⟩ := adopted_of_adoptStep hstep
    obtain ⟨rfl, hjoined'⟩ := ih hothers
    exact ⟨rfl, hjoined.trans hjoined'⟩

/-- The service with its steps adopted, and a pool that the states of the adopted functions have
joined. -/
theorem adopted_of_adoptFunctions {service adopted : Service}
    (h : adoptFunctions imports packages service = .ok adopted) :
    adopted = { service.mapSteps fun _ step ↦ adoptedStep imports packages step with
                states := adopted.states } ∧
      Joined service.states
        (service.operations.flatMap fun operation ↦ adoptedStates imports packages operation.step)
        adopted.states := by
  obtain ⟨fill, hmap, hvisit⟩ := service.exists_fill
  obtain ⟨⟨filled, pool⟩, hrun, h⟩ := bind_eq_ok_iff.mp h
  cases h
  rw [hvisit, StateT.run_map] at hrun
  obtain ⟨⟨steps, last⟩, hsteps, hpair⟩ := map_eq_ok_iff.mp hrun
  obtain ⟨rfl, rfl⟩ := Prod.mk.inj hpair
  obtain ⟨rfl, hjoined⟩ := adopted_of_visitEach hsteps
  exact ⟨by rw [hmap fun _ step ↦ adoptedStep imports packages step], hjoined⟩

end FlowSpec.Package
