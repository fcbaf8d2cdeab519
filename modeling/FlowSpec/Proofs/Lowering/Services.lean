import FlowSpec.Lowering.Definition
import FlowSpec.Proofs.Lowering.Table
import FlowSpec.Proofs.State.Resolution

/-!
The services of a document. Whatever its table holds, an action yields values of some kind
(`Yields`): steps with states that are not resolved, owned states that are typed under their names,
references with targets. The services of a document whose mappings have different keys are therefore
what the resolution of states starts from.
-/

set_option autoImplicit false

namespace FlowSpec.Lowering

open Document
open Outcome

variable {α β : Type}

/-! ### Actions and their values -/

/-- Every value that the action returns has the property. -/
def Yields (action : Lower α) (property : α → Prop) : Prop :=
  ∀ before value after, action.run before = .ok (value, after) → property value

namespace Yields

variable {action : Lower α} {next : α → Lower β} {property : α → Prop} {last : β → Prop}

theorem pure {value : α} (h : property value) : Yields (pure value) property := by
  intro before result after hrun
  cases hrun
  exact h

theorem fail (cause : Cause) : Yields (fail cause) property := by
  intro before result after hrun
  cases hrun

theorem bind (haction : Yields action property)
    (hnext : ∀ value, property value → Yields (next value) last) :
    Yields (action >>= next) last := by
  intro before result after hrun
  obtain ⟨⟨value, between⟩, hvalue, hresult⟩ := bind_eq_ok_iff.mp hrun
  exact hnext value (haction before value between hvalue) between result after hresult

theorem trivial (action : Lower α) : Yields action fun _ ↦ True := fun _ _ _ _ ↦ True.intro

theorem guard {condition : Prop} [Decidable condition] {cause : Cause}
    (haction : Yields action property) :
    Yields (do
      if condition then Lowering.fail cause
      action) property := by
  split
  · exact fail cause
  · exact haction

theorem inContext (context : String) (haction : Yields action property) :
    Yields (inContext context action) property := by
  intro before value after hrun
  exact haction before value after (mapError_eq_ok_iff.mp hrun)

theorem listMapM {ι : Type} {items : List ι} {step : ι → Lower β} {relation : ι → β → Prop}
    (h : ∀ item ∈ items, Yields (step item) (relation item)) :
    Yields (items.mapM step) (List.Forall₂ relation items) := by
  induction items with
  | nil => exact .pure .nil
  | cons item rest ih =>
    obtain ⟨hitem, hrest⟩ := List.forall_mem_cons.mp h
    rw [List.mapM_cons]
    exact hitem.bind fun result hresult ↦ (ih hrest).bind fun results hresults ↦
      .pure (.cons hresult hresults)

theorem optionMapM {ι : Type} {item : Option ι} {step : ι → Lower β}
    (h : ∀ item, Yields (step item) last) :
    Yields (item.mapM step) fun result ↦ ∀ value ∈ result, last value := by
  cases item with
  | none => exact .pure (by simp)
  | some item => exact (h item).bind fun result hresult ↦ .pure (by simpa using hresult)

end Yields

/-! ### Steps -/

/-- The states of these operations are not resolved. -/
def Unresolved (operations : List Operation) : Prop :=
  ∀ operation ∈ operations, ∀ state ∈ operation.step.states, state.resolved = none

theorem unresolved_append {first last : List Operation} (hfirst : Unresolved first)
    (hlast : Unresolved last) :
    Unresolved (first ++ last) :=
  fun operation hoperation ↦
    (List.mem_append.mp hoperation).elim (hfirst operation) (hlast operation)

/-- A part that may be missing adds its operations where it is there. -/
theorem unresolved_optional {part : Option α} {operations : α → List Operation}
    (h : ∀ value ∈ part, Unresolved (operations value)) :
    Unresolved ((part.map operations).getD []) := by
  cases part with
  | none => simp [Unresolved]
  | some value => exact h value rfl

theorem unresolved_optionalStep {operator : Operator} {step : Option Step}
    (h : ∀ value ∈ step, Unresolved [⟨operator, value⟩]) :
    Unresolved (step.map (Operation.mk operator)).toList := by
  cases step with
  | none => simp [Unresolved]
  | some value => exact h value rfl

theorem unresolved_flatMap {parts : List α} {operations : α → List Operation}
    (h : ∀ part ∈ parts, Unresolved (operations part)) : Unresolved (parts.flatMap operations) := by
  intro operation hoperation
  obtain ⟨part, hpart, hoperation⟩ := List.mem_flatMap.mp hoperation
  exact h part hpart operation hoperation

theorem yields_lowerStep (operator : Operator) (entry : StepEntry) :
    Yields (lowerStep entry) fun step ↦ Unresolved [⟨operator, step⟩] := by
  unfold lowerStep
  refine Yields.guard (.pure ?_)
  simp [Unresolved]

theorem yields_lowerOperation (entry : StepEntry) :
    Yields (lowerOperation entry) fun operation ↦ Unresolved [operation] := by
  unfold lowerOperation
  refine Yields.guard ?_
  split
  next => exact .fail _
  next operator _ =>
    exact Yields.guard ((yields_lowerStep operator entry).bind fun step hstep ↦ .pure hstep)

theorem yields_lowerTransforms (index : Nat) (entries : List StepEntry) :
    Yields (lowerTransforms index entries) Unresolved := by
  induction entries generalizing index with
  | nil => exact .pure (by simp [Unresolved])
  | cons entry rest ih =>
    refine ((yields_lowerOperation entry).inContext _).bind fun operation hoperation ↦ ?_
    exact (ih (index + 1)).bind fun operations hoperations ↦
      .pure (unresolved_append hoperation hoperations)

theorem yields_lowerPartition (entry : PartitionEntry) :
    Yields (lowerPartition entry) fun partition ↦ Unresolved partition.operations := by
  refine ((yields_lowerStep .assignKey _).inContext _).bind fun assignKey hassign ↦ ?_
  refine ((yields_lowerTransforms _ _).inContext _).bind fun transforms htransforms ↦ ?_
  refine (Yields.optionMapM fun step ↦ (yields_lowerStep .updateState step).inContext _).bind
    fun updateState hupdate ↦ .pure ?_
  exact unresolved_append (unresolved_append hassign htransforms) (unresolved_optionalStep hupdate)

theorem yields_lowerWindow (entry : WindowEntry) :
    Yields (lowerWindow entry) fun window ↦ Unresolved window.operations := by
  refine (Yields.trivial _).bind fun size _ ↦ ?_
  refine (Yields.trivial _).bind fun idleness _ ↦ ?_
  refine (Yields.trivial _).bind fun gracePeriod _ ↦ ?_
  refine ((yields_lowerStep .assignTimestamp _).inContext _).bind fun assignTimestamp hassign ↦ ?_
  refine ((yields_lowerTransforms _ _).inContext _).bind fun transforms htransforms ↦ ?_
  refine (Yields.optionMapM fun partition ↦ (yields_lowerPartition partition).inContext _).bind
    fun partition hpartition ↦ ?_
  refine (Yields.optionMapM fun step ↦ (yields_lowerStep .aggregate step).inContext _).bind
    fun flush hflush ↦ .pure ?_
  exact unresolved_append (unresolved_append (unresolved_append hassign htransforms)
    (unresolved_optional hpartition)) (unresolved_optionalStep hflush)

theorem yields_lowerEndpoint (entry : EndpointEntry) :
    Yields (lowerEndpoint entry) fun endpoint ↦ Unresolved endpoint.transforms := by
  exact ((yields_lowerTransforms _ _).inContext _).bind fun transforms htransforms ↦
    .pure htransforms

/-! ### States -/

theorem yields_lowerState (isV5 : Bool) (name : String) (entry : StateEntry) :
    Yields (lowerState isV5 name entry) fun source ↦ State.Fresh ⟨name, source⟩ := by
  cases entry with
  | declared declaration => exact (Yields.trivial _).bind fun type _ ↦ .pure (.owned name type)
  | reference text =>
    rw [lowerState]
    split
    next service state _ =>
      split
      next => exact .fail _
      next => exact .pure (.reference name ⟨service, state⟩ none)
    next => exact .fail _
  | system kind => exact .pure (.system name kind)

/-! ### Services -/

/-- What a service is lowered to: a service of its name, with a pool of the names that its states
have. -/
structure LoweredService (name : String) (entry : ServiceEntry) (service : Service) : Prop where
  name : service.name = name
  pool : (service.states.map PoolState.name).Perm (entry.states.map Prod.fst)
  entries : ∀ entry ∈ service.states, State.Fresh entry
  steps : Unresolved service.operations

theorem yields_lowerService (isV5 : Bool) (name : String) (entry : ServiceEntry) :
    Yields (lowerService isV5 name entry) (LoweredService name entry) := by
  refine ((Yields.listMapM fun endpoint _ ↦ yields_lowerEndpoint endpoint).inContext _).bind
    fun sources hsources ↦ ?_
  refine ((Yields.listMapM fun endpoint _ ↦ yields_lowerEndpoint endpoint).inContext _).bind
    fun sinks hsinks ↦ ?_
  refine ((yields_lowerTransforms _ _).inContext _).bind fun transforms htransforms ↦ ?_
  refine (Yields.optionMapM fun window ↦ (yields_lowerWindow window).inContext _).bind
    fun window hwindow ↦ ?_
  refine (Yields.optionMapM fun partition ↦ (yields_lowerPartition partition).inContext _).bind
    fun partition hpartition ↦ ?_
  have hentry (item : String × StateEntry) : Yields (do
      return { name := item.1,
               source := ← inContext (named "state" item.1) (lowerState isV5 item.1 item.2) })
        fun state ↦ state.name = item.1 ∧ State.Fresh state :=
    ((yields_lowerState isV5 item.1 item.2).inContext _).bind fun source hsource ↦
      .pure ⟨rfl, hsource⟩
  refine (Yields.listMapM fun item _ ↦ hentry item).bind fun states hstates ↦
    .pure ⟨rfl, ?_, ?_, ?_⟩
  · rw [map_eq_map_of_forall₂ (f := Prod.fst) hstates fun _ _ hstate ↦ hstate.1]
    exact (Text.sortByName_perm Prod.fst entry.states).map Prod.fst
  · intro state hstate
    obtain ⟨-, -, -, hfresh⟩ := exists_left_of_forall₂ hstates hstate
    exact hfresh
  · have hends {entries : List EndpointEntry} {endpoints : List Endpoint}
        (hall : List.Forall₂ (fun _ endpoint ↦ Unresolved endpoint.transforms) entries endpoints) :
        Unresolved (endpoints.flatMap Endpoint.transforms) := by
      refine unresolved_flatMap fun endpoint hendpoint ↦ ?_
      obtain ⟨-, -, hunresolved⟩ := exists_left_of_forall₂ hall hendpoint
      exact hunresolved
    exact unresolved_append
      (unresolved_append (unresolved_append (unresolved_append (hends hsources) htransforms)
      (unresolved_optional hwindow)) (unresolved_optional hpartition)) (hends hsinks)

/-! ### Documents -/

/-- The services of a document are lowered one by one, in the order of their names. -/
theorem loweredServices_of_dataflow {document : DataflowDocument} {definition : Dataflow}
    (h : dataflow document = .ok definition) :
    List.Forall₂ (fun item service ↦ LoweredService item.1 item.2 service)
      (Text.sortByName Prod.fst document.services) definition.services := by
  obtain ⟨version, -, h⟩ := bind_eq_ok_iff.mp h
  obtain ⟨⟨services, types⟩, hlower, h⟩ := bind_eq_ok_iff.mp h
  cases h
  obtain ⟨⟨value, table⟩, hrun, hvalue⟩ := map_eq_ok_iff.mp hlower
  obtain ⟨rfl, -⟩ := Prod.mk.inj hvalue
  have hentry (item : String × ServiceEntry) :
      Yields (inContext (named "service" item.1) (lowerService version.isV5 item.1 item.2))
        (LoweredService item.1 item.2) :=
    (yields_lowerService _ _ _).inContext _
  exact Yields.bind (Yields.trivial _) (fun _ _ ↦ Yields.listMapM fun item _ ↦
      hentry item) _ _ _ hrun

/-- The mappings of services and of their states have different keys. -/
structure DistinctKeys (document : DataflowDocument) : Prop where
  services : (document.services.map Prod.fst).Nodup
  states : ∀ service ∈ document.services, (service.2.states.map Prod.fst).Nodup

/-- The definition of a document is one that states can be resolved in. -/
theorem lowered_of_dataflow {document : DataflowDocument} {definition : Dataflow}
    (h : dataflow document = .ok definition) (hkeys : DistinctKeys document) :
    State.Lowered definition := by
  have hservices := loweredServices_of_dataflow h
  have hservice (service : Service) (hservice : service ∈ definition.services) :
      ∃ item ∈ document.services, LoweredService item.1 item.2 service := by
    obtain ⟨item, hitem, hlowered⟩ := exists_left_of_forall₂ hservices hservice
    exact ⟨item, Text.mem_sortByName.mp hitem, hlowered⟩
  refine ⟨?_, fun service h ↦ ?_, fun service h ↦ ?_, fun service h ↦ ?_⟩
  · rw [map_eq_map_of_forall₂ (f := Prod.fst) hservices fun _ _ hlowered ↦ hlowered.name]
    exact ((Text.sortByName_perm Prod.fst document.services).map Prod.fst).nodup_iff.mpr
      hkeys.services
  · obtain ⟨item, hitem, hlowered⟩ := hservice service h
    exact hlowered.pool.nodup_iff.mpr (hkeys.states item hitem)
  · obtain ⟨_, -, hlowered⟩ := hservice service h
    exact hlowered.entries
  · obtain ⟨_, -, hlowered⟩ := hservice service h
    exact hlowered.steps

theorem yields_lowerFunction (entry : FunctionEntry) :
    Yields (lowerFunction entry) fun operation ↦ Unresolved [operation] := by
  refine Yields.inContext _ ?_
  split
  next => exact .fail _
  next operator _ => exact (yields_lowerStep operator entry.step).bind fun step hstep ↦ .pure hstep

/-- The functions of a package have states that are not resolved. -/
theorem unresolved_of_package {document : PackageDocument} {definition : Package}
    (h : package document = .ok definition) : Unresolved definition.functions := by
  obtain ⟨version, -, h⟩ := bind_eq_ok_iff.mp h
  obtain ⟨⟨⟨states, functions⟩, types⟩, hlower, h⟩ := bind_eq_ok_iff.mp h
  cases h
  obtain ⟨⟨⟨_, _⟩, table⟩, hrun, hvalue⟩ := map_eq_ok_iff.mp hlower
  cases hvalue
  have hfunctions : Yields (document.functions.mapM lowerFunction) Unresolved := by
    intro before results after hresults operation hoperation
    have hall :=
      Yields.listMapM (fun entry _ ↦ yields_lowerFunction entry) before results after hresults
    obtain ⟨entry, -, hunresolved⟩ := exists_left_of_forall₂ hall hoperation
    exact hunresolved operation List.mem_cons_self
  exact @Yields.bind _ _ _ _ _ (fun value : List TypedState × List Operation ↦ Unresolved value.2)
    (Yields.trivial _)
    (fun _ _ ↦ (Yields.trivial _).bind fun _ _ ↦ hfunctions.bind fun _ hall ↦ .pure hall) _ _ _ hrun

end FlowSpec.Lowering
