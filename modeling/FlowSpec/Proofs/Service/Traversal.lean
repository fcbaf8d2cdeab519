import Mathlib.Tactic.Choose
import FlowSpec.Service

/-!
Steps are visited in the order in which a service lists its operations. In every lawful monad a
visit of the service is a visit of that list, and what becomes of the service depends on the
returned steps alone. So a visit that returns the steps that some function gives is the change of
all steps by that function.
-/

set_option autoImplicit false

namespace FlowSpec

/-! ### Visits of lists -/

/-- Visits the steps of operations. -/
def visitEach {m : Type → Type} [Monad m] (visit : Operator → Step → m Step)
    (operations : List Operation) : m (List Step) :=
  operations.mapM fun operation ↦ visit operation.operator operation.step

section VisitEach

variable {m : Type → Type} [Monad m] [LawfulMonad m] (visit : Operator → Step → m Step)

omit [LawfulMonad m] in
@[simp]
theorem visitEach_nil : visitEach visit [] = pure [] := by
  simp [visitEach]

@[simp]
theorem visitEach_cons (operation : Operation) (rest : List Operation) :
    visitEach visit (operation :: rest) = do
      let step ← visit operation.operator operation.step
      let steps ← visitEach visit rest
      return step :: steps := by
  simp [visitEach]

theorem visitEach_append (first second : List Operation) :
    visitEach visit (first ++ second) = do
      let before ← visitEach visit first
      let after ← visitEach visit second
      return before ++ after := by
  simp [visitEach, List.mapM_append]

/-- What follows a visit sees as many steps as there are operations. -/
theorem visitEach_bind_congr {α : Type} {operations : List Operation} {f g : List Step → m α}
    (h : ∀ steps, steps.length = operations.length → f steps = g steps) :
    visitEach visit operations >>= f = visitEach visit operations >>= g := by
  induction operations generalizing f g with
  | nil => simp [h]
  | cons operation rest ih =>
    simp only [visitEach_cons, bind_assoc, pure_bind]
    refine bind_congr fun step ↦ ih fun steps hlength ↦ h (step :: steps) ?_
    rw [List.length_cons, List.length_cons, hlength]

end VisitEach

/-! ### Traversals -/

/-- A computation visits the steps of operations, in order, and makes its result from what they
become. -/
def Traverses {α : Type} (operations : List Operation)
    (run : ∀ (m : Type → Type) [Monad m], (Operator → Step → m Step) → m α) : Prop :=
  ∃ fill : List Step → α,
    ∀ (m : Type → Type) [Monad m] [LawfulMonad m] (visit : Operator → Step → m Step),
    run m visit = fill <$> visitEach visit operations

namespace Traverses

variable {α β : Type} {first second : List Operation}
  {run other : ∀ (m : Type → Type) [Monad m], (Operator → Step → m Step) → m α}
  {next : α → ∀ (m : Type → Type) [Monad m], (Operator → Step → m Step) → m β}

theorem congr (hrun : Traverses first run) (h : ∀ (m : Type → Type) [Monad m] [LawfulMonad m]
    (visit : Operator → Step → m Step), other m visit = run m visit) : Traverses first other := by
  obtain ⟨fill, hfill⟩ := hrun
  exact ⟨fill, fun m _ _ visit ↦ (h m visit).trans (hfill m visit)⟩

theorem pure (value : α) : Traverses [] fun _ _ _ ↦ Pure.pure value :=
  ⟨fun _ ↦ value, fun m _ _ visit ↦ by simp⟩

theorem bind (hrun : Traverses first run) (hnext : ∀ value, Traverses second (next value)) :
    Traverses (first ++ second) fun m _ visit ↦ run m visit >>= fun value ↦ next value m visit := by
  obtain ⟨fill, hfill⟩ := hrun
  choose fillNext hfillNext using hnext
  refine ⟨fun steps ↦ fillNext (fill (steps.take first.length)) (steps.drop first.length), ?_⟩
  intro m _ _ visit
  simp only [hfill]
  rw [visitEach_append, map_bind, bind_map_left]
  refine visitEach_bind_congr visit fun before hlength ↦ ?_
  rw [hfillNext]
  simp [hlength]

/-- The last of several visits is followed by a plain result. -/
theorem map (hrun : Traverses first run) (f : α → β) :
    Traverses first fun m _ visit ↦ run m visit >>= fun value ↦ Pure.pure (f value) := by
  have h := hrun.bind fun value ↦ Traverses.pure (f value)
  rwa [List.append_nil] at h

theorem step (operator : Operator) (step : Step) :
    Traverses [⟨operator, step⟩] fun _ _ visit ↦ visit operator step :=
  ⟨fun steps ↦ steps.headD step, fun m _ _ visit ↦ by simp⟩

theorem operations (operations : List Operation) :
    Traverses operations fun _ _ visit ↦ visitOperations visit operations := by
  induction operations with
  | nil => exact Traverses.pure []
  | cons operation rest ih =>
    refine ((step operation.operator operation.step).bind fun step ↦
      ih.map fun steps ↦ { operation with step } :: steps).congr fun m _ _ visit ↦ ?_
    simp [visitOperations]

theorem optional (operator : Operator) (step : Option Step) :
    Traverses (step.map (Operation.mk operator)).toList fun _ _ visit ↦
      visitOptional visit operator step := by
  cases step with
  | none => exact Traverses.pure none
  | some step => exact (Traverses.step operator step).map some

/-- What is optional is visited if it is there. -/
theorem optionMapM {γ : Type} {operations : γ → List Operation}
    {run : γ → ∀ (m : Type → Type) [Monad m], (Operator → Step → m Step) → m γ}
    (h : ∀ part, Traverses (operations part) (run part)) (part : Option γ) :
    Traverses ((part.map operations).getD []) fun m _ visit ↦ part.mapM fun part ↦
      run part m visit := by
  cases part with
  | none => exact Traverses.pure none
  | some part => exact ((h part).map some).congr fun m _ _ visit ↦ by simp

theorem listMapM {γ : Type} {operations : γ → List Operation}
    {run : γ → ∀ (m : Type → Type) [Monad m], (Operator → Step → m Step) → m γ}
    (h : ∀ part, Traverses (operations part) (run part)) (parts : List γ) :
    Traverses (parts.flatMap operations) fun m _ visit ↦ parts.mapM fun part ↦
      run part m visit := by
  induction parts with
  | nil => exact Traverses.pure []
  | cons part rest ih =>
    refine ((h part).bind fun part ↦ ih.map fun parts ↦ part :: parts).congr fun m _ _ visit ↦ ?_
    simp

theorem partition (partition : Partition) :
    Traverses partition.operations fun _ _ visit ↦ partition.visitSteps visit :=
  (step _ _).bind fun _ ↦ (operations _).bind fun _ ↦ (optional _ _).map _

theorem window (window : Window) :
    Traverses window.operations fun _ _ visit ↦ window.visitSteps visit := by
  have h : window.operations = [⟨.assignTimestamp, window.assignTimestamp⟩] ++ (window.transforms ++
      ((window.partition.map Partition.operations).getD [] ++
        (window.flush.map (Operation.mk .aggregate)).toList)) := by
    simp [Window.operations]
  rw [h]
  exact (step _ _).bind fun _ ↦ (operations _).bind fun _ ↦ (optionMapM partition _).bind fun _ ↦
    (optional _ _).map _

theorem endpoint (endpoint : Endpoint) :
    Traverses endpoint.transforms fun _ _ visit ↦ endpoint.visitSteps visit :=
  (operations _).map _

theorem service (service : Service) :
    Traverses service.operations fun _ _ visit ↦ service.visitSteps visit := by
  have h : service.operations =
      service.sources.flatMap Endpoint.transforms ++ (service.transforms ++
      ((service.window.map Window.operations).getD [] ++
        ((service.partition.map Partition.operations).getD [] ++
          service.sinks.flatMap Endpoint.transforms))) := by
    simp [Service.operations]
  rw [h]
  exact (listMapM endpoint _).bind fun _ ↦ (operations _).bind fun _ ↦
    (optionMapM window _).bind fun _ ↦
    (optionMapM partition _).bind fun _ ↦ (listMapM endpoint _).map _

end Traverses

/-! ### Changes without effects -/

section MapSteps

variable (f : Operator → Step → Step)

def Operation.mapStep (operation : Operation) : Operation :=
  { operation with step := f operation.operator operation.step }

def Partition.mapSteps (partition : Partition) : Partition :=
  { assignKey := f .assignKey partition.assignKey
    transforms := partition.transforms.map (Operation.mapStep f)
    updateState := partition.updateState.map (f .updateState) }

def Window.mapSteps (window : Window) : Window :=
  { window with
    assignTimestamp := f .assignTimestamp window.assignTimestamp
    transforms := window.transforms.map (Operation.mapStep f)
    partition := window.partition.map (Partition.mapSteps f)
    flush := window.flush.map (f .aggregate) }

def Endpoint.mapSteps (endpoint : Endpoint) : Endpoint :=
  { endpoint with transforms := endpoint.transforms.map (Operation.mapStep f) }

/-- Changes every step of a service. -/
def Service.mapSteps (service : Service) : Service :=
  { service with
    sources := service.sources.map (Endpoint.mapSteps f)
    transforms := service.transforms.map (Operation.mapStep f)
    window := service.window.map (Window.mapSteps f)
    partition := service.partition.map (Partition.mapSteps f)
    sinks := service.sinks.map (Endpoint.mapSteps f) }

theorem Partition.operations_mapSteps (partition : Partition) :
    (partition.mapSteps f).operations = partition.operations.map (Operation.mapStep f) := by
  cases hstep : partition.updateState <;>
    simp [Partition.operations, Partition.mapSteps, Operation.mapStep, hstep]

theorem Window.operations_mapSteps (window : Window) :
    (window.mapSteps f).operations = window.operations.map (Operation.mapStep f) := by
  cases hpartition : window.partition <;> cases hflush : window.flush <;>
    simp [Window.operations, Window.mapSteps, Operation.mapStep,
      Partition.operations_mapSteps, hpartition, hflush]

theorem Service.operations_mapSteps (service : Service) :
    (service.mapSteps f).operations = service.operations.map (Operation.mapStep f) := by
  have hendpoints : ∀ endpoints : List Endpoint, (endpoints.map (Endpoint.mapSteps f)).flatMap
      Endpoint.transforms = (endpoints.flatMap Endpoint.transforms).map (Operation.mapStep f) := by
    intro endpoints
    rw [List.flatMap_map, List.map_flatMap]
    rfl
  cases hwindow : service.window <;> cases hpartition : service.partition <;>
    simp [Service.operations, Service.mapSteps, Window.operations_mapSteps,
      Partition.operations_mapSteps, hendpoints, hwindow, hpartition]

section Pure

variable {m : Type → Type} [Monad m] [LawfulMonad m]

theorem visitOperations_pure (operations : List Operation) :
    visitOperations (m := m) (fun operator step ↦ pure (f operator step)) operations =
      pure (operations.map (Operation.mapStep f)) := by
  simp only [visitOperations, pure_bind]
  exact List.mapM_pure

theorem visitOptional_pure (operator : Operator) (step : Option Step) :
    visitOptional (m := m) (fun operator step ↦ pure (f operator step)) operator step =
      pure (step.map (f operator)) := by
  cases step <;> simp [visitOptional]

theorem optionMapM_pure {α : Type} (g : α → α) (part : Option α) :
    part.mapM (fun part ↦ (pure (g part) : m α)) = pure (part.map g) := by
  cases part <;> simp

theorem Partition.visitSteps_pure :
    Partition.visitSteps (m := m) (fun operator step ↦ pure (f operator step)) =
      fun partition ↦ pure (partition.mapSteps f) := by
  funext partition
  simp [Partition.visitSteps, visitOperations_pure, visitOptional_pure, Partition.mapSteps]

theorem Window.visitSteps_pure :
    Window.visitSteps (m := m) (fun operator step ↦ pure (f operator step)) =
      fun window ↦ pure (window.mapSteps f) := by
  funext window
  simp [Window.visitSteps, visitOperations_pure, visitOptional_pure, Partition.visitSteps_pure,
    optionMapM_pure, Window.mapSteps]

theorem Endpoint.visitSteps_pure :
    Endpoint.visitSteps (m := m) (fun operator step ↦ pure (f operator step)) =
      fun endpoint ↦ pure (endpoint.mapSteps f) := by
  funext endpoint
  simp [Endpoint.visitSteps, visitOperations_pure, Endpoint.mapSteps]

/-- A visit without effects is a change of all steps. -/
theorem Service.visitSteps_pure (service : Service) :
    service.visitSteps (m := m) (fun operator step ↦ pure (f operator step)) =
      pure (service.mapSteps f) := by
  simp [Service.visitSteps, visitOperations_pure, Endpoint.visitSteps_pure, Window.visitSteps_pure,
    Partition.visitSteps_pure, optionMapM_pure, Service.mapSteps]

end Pure

end MapSteps

/-- A visit in any monad is a visit of the operations that the service lists, in their order, and
the changed steps are put where those of a change without effects go. -/
theorem Service.exists_fill (service : Service) : ∃ fill : List Step → Service,
    (∀ f : Operator → Step → Step,
      fill (service.operations.map fun operation ↦ f operation.operator operation.step) =
        service.mapSteps f) ∧
    ∀ (m : Type → Type) [Monad m] [LawfulMonad m] (visit : Operator → Step → m Step),
      service.visitSteps visit = fill <$> visitEach visit service.operations := by
  obtain ⟨fill, hfill⟩ := Traverses.service service
  refine ⟨fill, fun f ↦ ?_, hfill⟩
  have h : service.visitSteps (m := Id) _ = _ := hfill Id fun operator step ↦ pure (f operator step)
  have heach : visitEach (m := Id) (fun operator step ↦ pure (f operator step)) service.operations =
      pure (service.operations.map fun operation ↦ f operation.operator operation.step) :=
    List.mapM_pure
  rw [Service.visitSteps_pure, heach, map_pure] at h
  exact h.symm

/-- Gives every step the states that a function names. -/
def retie (settle : Step → List StepState) : Operator → Step → Step :=
  fun _ step ↦ { step with states := settle step }

end FlowSpec
