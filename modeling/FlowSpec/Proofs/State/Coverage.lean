import FlowSpec.Proofs.Package.Adoption
import FlowSpec.Proofs.State.Resolution

/-!
The states of steps against the pools of their services, in a dataflow whose imported functions have
been adopted. The entries of the pools are as they are lowered, and where a step has brought states
along they are among them (`Prepared`). Resolution settles a pool and leaves the states of such a
step as they are, so the entry of the pool is what the scope makes of the state (`Service.Covers`);
any other state takes the entry itself (`Service.Shares`).
-/

set_option autoImplicit false

namespace FlowSpec

open Outcome

namespace Service

variable {service : Service} {lookup : String → Option Shape} {state : StepState}
  {typed : TypedState}

/-- The typed state of a name in the pool of a service. -/
def pooled? (service : Service) (name : String) : Option TypedState :=
  (State.typedStates service.states).find? fun typed ↦ typed.name == name

/-- The state of a step is an entry of the pool, with a value. -/
def Shares (service : Service) (state : StepState) : Prop :=
  ∃ typed, state.resolved = some typed ∧ typed.type.value.isResolved ∧
    service.pooled? state.name = some typed

/-- The state of a step is resolved under its name, and the entry of the pool is what a scope makes
of it, with a value. -/
def Covers (service : Service) (lookup : String → Option Shape) (state : StepState) : Prop :=
  ∃ typed pooled, state.resolved = some typed ∧ typed.name = state.name ∧
    service.pooled? state.name = some pooled ∧
    pooled.type.value.isResolved ∧ typed.resolve lookup = .ok pooled

theorem Shares.covers (h : service.Shares state) : service.Covers lookup state := by
  obtain ⟨typed, hresolved, hvalue, hpooled⟩ := h
  have hname : typed.name = state.name := by simpa using List.find?_some hpooled
  exact ⟨typed, typed, hresolved, hname, hpooled, hvalue,
    TypedState.resolve_of_isResolved lookup hvalue⟩

/-- A scope makes nothing else of a state that has a value. -/
theorem Covers.shares (h : service.Covers lookup state) (hresolved : state.resolved = some typed)
    (hvalue : typed.type.value.isResolved) : service.Shares state := by
  obtain ⟨other, pooled, hother, -, hpooled, -, hresolve⟩ := h
  rw [hresolved, Option.some.injEq] at hother
  subst hother
  rw [TypedState.resolve_of_isResolved lookup hvalue, Except.ok.injEq] at hresolve
  exact ⟨typed, hresolved, hvalue, hresolve ▸ hpooled⟩

end Service

namespace State

variable {lookup : String → Option Shape} {dataflow settled : Dataflow} {service : Service}
  {target : StateTarget} {typed : TypedState} {pool results : List PoolState}

/-! ### Pools that are linked -/

/-- A state that is found in the pool is found settled once the pool is. -/
theorem exists_settled_of_find? (h : List.Forall₂ (Settles lookup settled) pool results)
    (hfresh : ∀ entry ∈ pool, Fresh entry)
    (hfound : (pool.find? fun entry ↦ entry.name == typed.name) = some (ownEntry typed)) :
    ∃ result, typed.resolve lookup = .ok result ∧
      ((typedStates results).find? fun other ↦ other.name == typed.name) = some result := by
  induction h with
  | nil => cases hfound
  | @cons entry next pool results hentry hrest ih =>
    obtain ⟨hfirst, hothers⟩ := List.forall_mem_cons.mp hfresh
    by_cases hname : entry.name = typed.name
    · obtain rfl : entry = ownEntry typed := by simpa [hname] using hfound
      cases hentry with
      | owned hresolve =>
        refine ⟨_, hresolve, ?_⟩
        simp [typedStates, PoolState.typed, TypedState.name_of_resolve hresolve]
    · have hskip : (pool.find? fun entry ↦ entry.name == typed.name) = some (ownEntry typed) := by
        simpa [hname] using hfound
      obtain ⟨result, hresolve, hresult⟩ := ih hothers hskip
      refine ⟨result, hresolve, ?_⟩
      cases htyped : next.typed with
      | none => simpa [typedStates, htyped] using hresult
      | some other =>
        have hother : other.name ≠ typed.name := by
          rw [hentry.name_of_typed hfirst htyped, hentry.name_eq]
          exact hname
        simpa [typedStates, htyped, hother] using hresult

/-! ### Values of pools -/

/-- The values of all owned states are known in the scope. -/
def Known (lookup : String → Option Shape) (dataflow : Dataflow) : Prop :=
  ∀ service ∈ dataflow.services, ∀ entry ∈ service.states, ∀ typed,
    entry.source = .owned (some typed) →
    ∃ result, typed.resolve lookup = .ok result ∧ result.type.value.isResolved

theorem Known.isResolved_of_owns (h : Known lookup dataflow) (hvalued : Valued lookup dataflow)
    (howns : Owns (settleDataflow lookup dataflow) target typed) : typed.type.value.isResolved := by
  obtain ⟨owner, howner, -, entry, hentry, -, hsource⟩ := howns
  obtain ⟨service, hservice, rfl⟩ := List.mem_map.mp howner
  obtain ⟨old, hold, hpass⟩ := exists_left_of_forall₂ (hvalued.forall₂ hservice) hentry
  obtain ⟨before, hbefore⟩ := (of_ownedEntry hpass).2.2.2 typed hsource
  obtain ⟨result, hresult, hresolved⟩ := h service hservice old hold before hbefore
  rw [ownedEntry, hbefore] at hpass
  simp only [hresult] at hpass
  cases hpass
  cases hsource
  exact hresolved

theorem Known.isResolved_of_typed (h : Known lookup dataflow) (hvalued : Valued lookup dataflow)
    (hfollowed : Followed lookup (settleDataflow lookup dataflow) dataflow)
    (hservice : service ∈ dataflow.services) (hfresh : ∀ entry ∈ service.states, Fresh entry)
    (htyped : typed ∈
      typedStates (linkService lookup (settleDataflow lookup dataflow) service).states) :
    typed.type.value.isResolved := by
  obtain ⟨result, hresult, htyped⟩ := List.mem_filterMap.mp htyped
  obtain ⟨entry, hentry, hsettles⟩ :=
    exists_left_of_forall₂ (hvalued.settles hfollowed hservice hfresh) hresult
  cases hsettles with
  | owned hresolve =>
    cases htyped
    obtain ⟨settled, hsettled, hresolved⟩ := h service hservice _ hentry _ rfl
    rw [hresolve] at hsettled
    cases hsettled
    exact hresolved
  | reference howns =>
    cases htyped
    have hresolved := h.isResolved_of_owns hvalued howns
    exact hresolved
  | system => cases htyped

/-! ### Steps that are resolved -/

/-- The entries of the pool are as they are lowered, and a state that a step has brought along is
one of them, under its name. -/
structure Prepared (service : Service) : Prop where
  entries : ∀ entry ∈ service.states, Fresh entry
  steps : ∀ operation ∈ service.operations, ∀ state ∈ operation.step.states, ∀ typed,
    state.resolved = some typed →
    typed.name = state.name ∧ (service.states.find? fun entry ↦ entry.name == typed.name) =
    some (ownEntry typed)

theorem operations_of_resolveSteps (h : (resolveSteps service).2 = none) :
    (resolveSteps service).1.operations = service.operations.map (fun operation ↦
      { operation with step := settleStep (typedStates service.states) operation.step }) ∧
    ∀ operation ∈ service.operations,
      (resolveStepStates (typedStates service.states) operation.step.states).2 = none := by
  obtain ⟨fill, hmap, hrun⟩ := exists_fill_resolveSteps service
  rw [hrun] at h ⊢
  obtain ⟨hsteps, hfound⟩ := settled_of_settleEach _ _ h
  refine ⟨?_, hfound⟩
  rw [hsteps, hmap fun _ step ↦ settleStep (typedStates service.states) step,
    Service.operations_mapSteps]
  rfl

/-- A state that a step has brought along stays as it is, and any other takes the entry of its
name. -/
theorem covers_of_stepState {linked : Service} {operation : Operation} {state result : StepState}
    (hprepared : Prepared service)
    (hsettles : List.Forall₂ (Settles lookup settled) service.states linked.states)
    (hvalues : ∀ typed ∈ typedStates linked.states, typed.type.value.isResolved)
    (hoperation : operation ∈ service.operations) (hstate : state ∈ operation.step.states)
    (h : stepState (typedStates linked.states) state = .ok result) :
    linked.Covers lookup result ∧ (state.resolved = none → linked.Shares result) := by
  cases hresolved : state.resolved with
  | none =>
    obtain ⟨found, hfound, rfl⟩ := (stepState_eq_ok_iff hresolved).mp h
    have hshares : linked.Shares { state with resolved := some found } :=
      ⟨found, rfl, hvalues found (List.mem_of_find?_eq_some hfound), hfound⟩
    exact ⟨hshares.covers, fun _ ↦ hshares⟩
  | some typed =>
    obtain ⟨hname, hfound⟩ := hprepared.steps operation hoperation state hstate typed hresolved
    obtain ⟨pooled, hresolve, hpooled⟩ := exists_settled_of_find? hsettles hprepared.entries hfound
    obtain rfl : state = result := by simpa [stepState, hresolved] using h
    refine ⟨⟨typed, pooled, hresolved, hname, hname ▸ hpooled, ?_, hresolve⟩, by simp⟩
    exact hvalues pooled (List.mem_of_find?_eq_some hpooled)

/-- What becomes of the step of an operation when its service is resolved. -/
structure ResolvesStep (lookup : String → Option Shape) (service : Service)
    (before operation : Operation) : Prop where
  uses : operation.step.uses = before.step.uses
  covers : ∀ state ∈ operation.step.states, service.Covers lookup state
  shares : (∀ state ∈ before.step.states, state.resolved = none) →
    ∀ state ∈ operation.step.states, service.Shares state
  kept : (∀ state ∈ before.step.states, state.resolved.isSome) →
    operation.step.states = before.step.states

theorem Faultless.exists_resolves (h : Faultless lookup dataflow) (hknown : Known lookup dataflow)
    (hservice : service ∈ dataflow.services) (hprepared : Prepared service) {operation : Operation}
    (hoperation : operation ∈
      (resolveSteps (linkService lookup (settleDataflow lookup dataflow) service)).1.operations) :
    ∃ before ∈ service.operations, ResolvesStep lookup
      (resolveSteps (linkService lookup (settleDataflow lookup dataflow) service)).1 before
        operation := by
  obtain ⟨hoperations, hfound⟩ := operations_of_resolveSteps (h.steps service hservice)
  rw [hoperations] at hoperation
  obtain ⟨before, hbefore, rfl⟩ := List.mem_map.mp hoperation
  have hsteps := forall₂_of_resolveStepStates (Prod.ext rfl (hfound before hbefore))
  have hsettles := h.owned.settles h.references hservice hprepared.entries
  have hstate (state : StepState) (hstate : state ∈ before.step.states) (result : StepState) :=
    @covers_of_stepState lookup _ _ _ before state result hprepared hsettles
      (fun _ ↦ hknown.isResolved_of_typed h.owned h.references hservice hprepared.entries)
      hbefore hstate
  refine ⟨before, hbefore, rfl, ?_, ?_, ?_⟩
  · intro result hresult
    obtain ⟨state, hmem, hstep⟩ := exists_left_of_forall₂ hsteps hresult
    exact (hstate state hmem result hstep).1
  · intro hunresolved result hresult
    obtain ⟨state, hmem, hstep⟩ := exists_left_of_forall₂ hsteps hresult
    exact (hstate state hmem result hstep).2 (hunresolved state hmem)
  · intro hresolved
    exact congrArg Prod.fst (Package.resolveStepStates_of_resolved hresolved)

end State

end FlowSpec
