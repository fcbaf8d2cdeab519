import FlowSpec.Proofs.Scope.Settling
import FlowSpec.Proofs.State.Steps

/-!
Resolution pass by pass. The three passes change a list from its first item on and end at the first
item that cannot be changed (`passUntil`); without a fault a pass is a map over the list, and
whether an item is at fault is told by the item alone. An owned state is at fault if no state can
hold its value, a reference if nothing is found under its target, a state of a step if it is not
among the typed states.
-/

set_option autoImplicit false

namespace FlowSpec.State

/-! ### Passes -/

section Pass

variable {ε α : Type} {change : α → Except ε α} {items results : List α}

/-- Changes the items of a list up to the first that cannot be changed. -/
def passUntil (change : α → Except ε α) : List α → List α × Option ε
  | [] => ([], none)
  | item :: rest =>
    match change item with
    | .ok changed => (changed :: (passUntil change rest).1, (passUntil change rest).2)
    | .error fault => (item :: rest, some fault)

theorem passUntil_eq_iff : passUntil change items = (results, none) ↔
    List.Forall₂ (fun item result ↦ change item = .ok result) items results := by
  induction items generalizing results with
  | nil => simp [passUntil, eq_comm]
  | cons item rest ih =>
    cases hchange : change item with
    | error fault => simp [passUntil, hchange, List.forall₂_cons_left_iff]
    | ok changed =>
      have hrest (others : List α) : (passUntil change rest).1 = others ∧
          (passUntil change rest).2 = none ↔
          List.Forall₂ (fun item result ↦ change item = .ok result) rest others := by
        rw [← ih, Prod.ext_iff]
      rw [passUntil, hchange, List.forall₂_cons_left_iff]
      dsimp only
      constructor
      · intro h
        obtain ⟨rfl, hnone⟩ := Prod.mk.inj h
        exact ⟨changed, _, hchange, (hrest _).mp ⟨rfl, hnone⟩, rfl⟩
      · rintro ⟨other, others, hother, hothers, rfl⟩
        obtain rfl : changed = other := Except.ok.inj (hchange.symm.trans hother)
        obtain ⟨hsame, hnone⟩ := (hrest others).mpr hothers
        rw [hsame, hnone]

theorem snd_passUntil_eq_none_iff :
    (passUntil change items).2 = none ↔ ∀ item ∈ items, ∃ result, change item = .ok result := by
  constructor
  · intro h item hitem
    have hpass := passUntil_eq_iff.mp (Prod.ext rfl h)
    obtain ⟨result, -, hresult⟩ := Outcome.exists_right_of_forall₂ hpass hitem
    exact ⟨result, hresult⟩
  · intro h
    choose! result hresult using h
    have hpass : passUntil change items = (items.map result, none) := by
      rw [passUntil_eq_iff, List.forall₂_map_right_iff, List.forall₂_same]
      exact hresult
    rw [hpass]

theorem exists_fault_of_snd_passUntil {fault : ε} (h : (passUntil change items).2 = some fault) :
    ∃ item ∈ items, change item = .error fault := by
  induction items with
  | nil => cases h
  | cons item rest ih =>
    cases hchange : change item with
    | error other =>
      rw [passUntil, hchange] at h
      exact ⟨item, List.mem_cons_self, hchange.trans (congrArg _ (Option.some.inj h))⟩
    | ok changed =>
      rw [passUntil, hchange] at h
      obtain ⟨other, hother, hfault⟩ := ih h
      exact ⟨other, List.mem_cons_of_mem _ hother, hfault⟩

end Pass

variable {lookup : String → Option Shape} {dataflow : Dataflow} {service : String}
  {pool : List PoolState}

/-! ### Owned states -/

/-- The value of an owned state is settled. -/
def ownedEntry (lookup : String → Option Shape) (service : String) (entry : PoolState) :
    Except ResolutionError PoolState :=
  match entry.source with
  | .owned (some typed) =>
    match typed.resolve lookup with
    | .ok settled => .ok { entry with source := .owned (some settled) }
    | .error cause => .error { kind := .invalidValue cause, service, state := entry.name }
  | _ => .ok entry

theorem resolveOwned_eq (lookup : String → Option Shape) (service : String)
    (pool : List PoolState) :
    resolveOwned lookup service pool = passUntil (ownedEntry lookup service) pool := by
  induction pool with
  | nil => rfl
  | cons entry rest ih =>
    obtain ⟨name, source⟩ := entry
    rw [resolveOwned, passUntil, ownedEntry, ih]
    rcases source with (_ | typed) | _ | _
    · rfl
    · dsimp only
      cases typed.resolve lookup <;> rfl
    · rfl
    · rfl

/-! ### References -/

/-- A reference takes the typed state that it points at, under its own name. -/
def referenceEntry (dataflow : Dataflow) (service : String) (entry : PoolState) :
    Except ResolutionError PoolState :=
  match entry.source with
  | .reference (some target) _ =>
    match ownedState? dataflow target with
    | some typed =>
      .ok { entry with source := .reference (some target) (some { typed with name := entry.name }) }
    | none => .error { kind := .undefinedReference, service, state := target.text,
                       suggestion := suggestion target.text (ownedNames dataflow) }
  | _ => .ok entry

theorem resolveReferences_eq (dataflow : Dataflow) (service : String) (pool : List PoolState) :
    resolveReferences dataflow service pool = passUntil (referenceEntry dataflow service) pool := by
  induction pool with
  | nil => rfl
  | cons entry rest ih =>
    obtain ⟨name, source⟩ := entry
    rw [resolveReferences, passUntil, referenceEntry, ih]
    rcases source with _ | ⟨_ | target, _⟩ | _
    · rfl
    · rfl
    · dsimp only
      cases ownedState? dataflow target <;> rfl
    · rfl

/-! ### States of steps -/

/-- A state of a step takes the typed state of its name. -/
def stepState (states : List TypedState) (state : StepState) : Except ResolutionError StepState :=
  if state.resolved.isSome then .ok state
  else match states.find? fun typed ↦ typed.name == state.name with
    | some typed => .ok { state with resolved := some typed }
    | none => .error { kind := .unresolvedStep, state := state.name,
                       suggestion := suggestion state.name (states.map TypedState.name) }

theorem resolveStepStates_eq (states : List TypedState) (used : List StepState) :
    resolveStepStates states used = passUntil (stepState states) used := by
  induction used with
  | nil => rfl
  | cons state rest ih =>
    rw [resolveStepStates, passUntil, stepState, ih]
    split_ifs with hresolved
    · rfl
    · cases states.find? fun typed ↦ typed.name == state.name <;> rfl

theorem kind_of_resolveStepStates {states : List TypedState} {used : List StepState}
    {error : ResolutionError} (h : (resolveStepStates states used).2 = some error) :
    error.kind = .unresolvedStep := by
  rw [resolveStepStates_eq] at h
  obtain ⟨state, -, hstate⟩ := exists_fault_of_snd_passUntil h
  unfold stepState at hstate
  split_ifs at hstate
  split at hstate
  next => cases hstate
  next =>
    cases hstate
    rfl

theorem kind_of_settleEach {states : List TypedState} {operations : List Operation}
    {error : ResolutionError} (h : (settleEach states service operations none).2 = some error) :
    error.kind = .unresolvedStep := by
  induction operations with
  | nil => cases h
  | cons operation rest ih =>
    cases hfound : (resolveStepStates states operation.step.states).2 with
    | some first =>
      rw [settleEach_cons states service rest (congrArg _ hfound), Option.map_some,
        settleEach_of_failed] at h
      cases h
      have hkind := kind_of_resolveStepStates hfound
      exact hkind
    | none =>
      rw [settleEach_cons states service rest (congrArg _ hfound), Option.map_none] at h
      exact ih h

/-- The only fault that the steps of a service can have is a state that is not found. -/
theorem kind_of_resolveSteps {service : Service} {error : ResolutionError}
    (h : (resolveSteps service).2 = some error) : error.kind = .unresolvedStep := by
  obtain ⟨fill, -, hrun⟩ := exists_fill_resolveSteps service
  rw [hrun] at h
  exact kind_of_settleEach h

end FlowSpec.State
