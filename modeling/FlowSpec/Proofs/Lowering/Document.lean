import FlowSpec.Lowering.Definition
import FlowSpec.Proofs.Lowering.Hoisting

/-!
The types of a whole document. Steps, windows and endpoints hoist nothing (`Idle`), so the table
that a document leaves behind is filled by its types and by the declarations inside its states. The
types of the definition are the entries of that table.
-/

set_option autoImplicit false

namespace FlowSpec.Lowering

open Document

variable {α β : Type}

/-! ### Actions that hoist nothing -/

/-- The action leaves the table as it is and tells no redefinition. -/
def Idle (action : Lower α) : Prop := Lowers action ∅ fun _ ↦ True

namespace Idle

variable {action : Lower α} {next : α → Lower β}

theorem pure (value : α) : Idle (pure value) := Lowers.pure trivial

theorem fail {cause : Cause} (h : ∀ name, cause ≠ .redefined name) : Idle (fail cause : Lower α) :=
  Lowers.fail h

theorem bind (haction : Idle action) (hnext : ∀ value, Idle (next value)) :
    Idle (action >>= next) := by
  unfold Idle
  rw [← Set.union_empty ∅]
  exact Lowers.bind haction fun value _ ↦ hnext value

theorem map (f : α → β) (haction : Idle action) : Idle (f <$> action) :=
  Lowers.map haction fun _ _ ↦ trivial

theorem inContext (context : String) (haction : Idle action) : Idle (inContext context action) :=
  Lowers.inContext context haction

theorem listMapM {ι : Type} {items : List ι} {step : ι → Lower β} (h : ∀ item, Idle (step item)) :
    Idle (items.mapM step) := by
  have hall : Lowers (items.mapM step) (⋃ item ∈ items, ∅) fun _ ↦ True := .mapM fun item _ ↦ h item
  simpa [Idle] using hall

theorem optionMapM {ι : Type} {item : Option ι} {step : ι → Lower β}
    (h : ∀ item, Idle (step item)) :
    Idle (item.mapM step) := by
  cases item with
  | none => exact .pure none
  | some item => exact (h item).map some

theorem bindLowers {entries : Set (String × Shape)} {property : β → Prop} (haction : Idle action)
    (hnext : ∀ value, Lowers (next value) entries property) :
    Lowers (action >>= next) entries property := by
  rw [← Set.empty_union entries]
  exact Lowers.bind haction fun value _ ↦ hnext value

end Idle

theorem idle_liftDuration (outcome : Except Duration.Error α) : Idle (liftDuration outcome) := by
  cases outcome with
  | ok value => exact .pure value
  | error error => exact .fail fun _ ↦ Cause.noConfusion

theorem idle_optionalDuration (text : String) : Idle (optionalDuration text) := by
  unfold optionalDuration
  split
  · exact .pure none
  · exact (idle_liftDuration _).map some

theorem idle_lowerStep (entry : StepEntry) : Idle (lowerStep entry) := by
  unfold lowerStep
  exact Lowers.guard (fun _ ↦ Cause.noConfusion) (Idle.pure _)

theorem idle_lowerOperation (entry : StepEntry) : Idle (lowerOperation entry) := by
  unfold lowerOperation
  refine Lowers.guard (fun _ ↦ Cause.noConfusion) ?_
  split
  next => exact .fail fun _ ↦ Cause.noConfusion
  next operator _ =>
    refine Lowers.guard (fun _ ↦ Cause.noConfusion) ?_
    exact (idle_lowerStep entry).bind fun step ↦ .pure _

theorem idle_lowerTransforms (index : Nat) (entries : List StepEntry) :
    Idle (lowerTransforms index entries) := by
  induction entries generalizing index with
  | nil => exact .pure []
  | cons entry rest ih =>
    exact ((idle_lowerOperation entry).inContext _).bind fun operation ↦
      (ih (index + 1)).bind fun operations ↦ .pure _

theorem idle_lowerPartition (entry : PartitionEntry) : Idle (lowerPartition entry) := by
  refine ((idle_lowerStep _).inContext _).bind fun assignKey ↦ ?_
  refine ((idle_lowerTransforms _ _).inContext _).bind fun transforms ↦ ?_
  refine (Idle.optionMapM fun step ↦ (idle_lowerStep step).inContext _).bind fun updateState ↦ ?_
  exact .pure _

theorem idle_lowerSize (entry : SizeEntry) : Idle (lowerSize entry) := by
  cases entry with
  | tumbling size =>
    refine (idle_liftDuration _).bind fun duration ↦ ?_
    exact (idle_optionalDuration _).bind fun offset ↦ .pure _
  | sliding size =>
    refine (idle_liftDuration _).bind fun duration ↦ ?_
    refine (idle_liftDuration _).bind fun slide ↦ ?_
    exact (idle_optionalDuration _).bind fun offset ↦ .pure _

theorem idle_lowerWindow (entry : WindowEntry) : Idle (lowerWindow entry) := by
  refine (idle_lowerSize _).bind fun size ↦ ?_
  refine (idle_optionalDuration _).bind fun idleness ↦ ?_
  refine (idle_optionalDuration _).bind fun gracePeriod ↦ ?_
  refine ((idle_lowerStep _).inContext _).bind fun assignTimestamp ↦ ?_
  refine ((idle_lowerTransforms _ _).inContext _).bind fun transforms ↦ ?_
  refine (Idle.optionMapM fun partition ↦ (idle_lowerPartition partition).inContext _).bind
    fun partition ↦ ?_
  refine (Idle.optionMapM fun step ↦ (idle_lowerStep step).inContext _).bind fun flush ↦ ?_
  exact .pure _

theorem idle_lowerEndpoint (entry : EndpointEntry) : Idle (lowerEndpoint entry) := by
  refine ((idle_lowerTransforms _ _).inContext _).bind fun transforms ↦ ?_
  exact .pure _

theorem idle_lowerFunction (entry : FunctionEntry) : Idle (lowerFunction entry) := by
  refine Idle.inContext _ ?_
  split
  next => exact .fail fun _ ↦ Cause.noConfusion
  next operator _ => exact (idle_lowerStep _).bind fun step ↦ .pure _

/-! ### States -/

/-- A state hoists the declarations inside its own. -/
theorem lowers_keyedStateOf (isV5 : Bool) (declaration : Declaration) :
    Lowers (keyedStateOf isV5 declaration) (entriesOf isV5 declaration.parts) fun _ ↦ True := by
  rw [← Set.union_empty (entriesOf isV5 declaration.parts)]
  refine (visits_shapeOf isV5 declaration).lowers.bind fun shape _ ↦ ?_
  split
  next state => exact .pure trivial
  next => exact .fail fun _ ↦ Cause.noConfusion

/-- The declaration of a state that a service declares itself. -/
def stateDeclaration? : StateEntry → Option Declaration
  | .declared declaration => some declaration
  | .reference _ | .system _ => none

/-- What the state of a service hoists. -/
def stateEntries (isV5 : Bool) (entry : StateEntry) : Set (String × Shape) :=
  entriesOf isV5 ((stateDeclaration? entry).toList.flatMap Declaration.parts)

theorem lowers_lowerState (isV5 : Bool) (name : String) (entry : StateEntry) :
    Lowers (lowerState isV5 name entry) (stateEntries isV5 entry) fun _ ↦ True := by
  cases entry with
  | declared declaration =>
    have hentries : stateEntries isV5 (.declared declaration) =
        entriesOf isV5 declaration.parts := by
      simp [stateEntries, stateDeclaration?]
    rw [hentries, lowerState, bind_pure_comp]
    exact (lowers_keyedStateOf isV5 declaration).map fun _ _ ↦ trivial
  | reference text =>
    rw [stateEntries, stateDeclaration?, Option.toList_none, List.flatMap_nil,
      entriesOf_nil, lowerState]
    split
    next =>
      split
      next => exact .fail fun _ ↦ Cause.noConfusion
      next => exact .pure trivial
    next => exact .fail fun _ ↦ Cause.noConfusion
  | system kind =>
    rw [stateEntries, stateDeclaration?, Option.toList_none, List.flatMap_nil,
      entriesOf_nil, lowerState]
    exact .pure trivial

theorem lowers_lowerService (isV5 : Bool) (name : String) (entry : ServiceEntry) :
    Lowers (lowerService isV5 name entry) (⋃ state ∈ entry.states, stateEntries isV5 state.2)
      fun _ ↦ True := by
  refine ((Idle.listMapM idle_lowerEndpoint).inContext _).bindLowers fun sources ↦ ?_
  refine ((Idle.listMapM idle_lowerEndpoint).inContext _).bindLowers fun sinks ↦ ?_
  refine ((idle_lowerTransforms _ _).inContext _).bindLowers fun transforms ↦ ?_
  refine (Idle.optionMapM fun window ↦ (idle_lowerWindow window).inContext _).bindLowers
    fun window ↦ ?_
  refine (Idle.optionMapM fun partition ↦ (idle_lowerPartition partition).inContext _).bindLowers
    fun partition ↦ ?_
  have hsame : (⋃ state ∈ entry.states, stateEntries isV5 state.2) =
      ⋃ state ∈ Text.sortByName Prod.fst entry.states, stateEntries isV5 state.2 := by
    simp [Text.mem_sortByName]
  rw [hsame]
  rw [bind_pure_comp]
  refine (Lowers.mapM ?_).map fun _ _ ↦ trivial
  rintro ⟨state, source⟩ -
  dsimp only
  rw [bind_pure_comp]
  exact ((lowers_lowerState isV5 _ _).inContext _).map fun _ _ ↦ trivial

/-! ### Documents -/

/-- A document of either kind. -/
inductive Source where
  | dataflow (document : DataflowDocument)
  | package (document : PackageDocument)

namespace Source

def apiVersion : Source → String
  | dataflow document => document.apiVersion
  | package document => document.apiVersion

/-- Whether the document is in the older format. -/
def isV5 (source : Source) : Bool :=
  match ApiVersion.parse source.apiVersion with
  | .ok version => version.isV5
  | .error _ => false

/-- The types at the top level. -/
def types : Source → List (String × Declaration)
  | dataflow document => document.types
  | package document => document.types

/-- The declarations of states. -/
def states : Source → List Declaration
  | dataflow document => document.services.flatMap fun service ↦
      service.2.states.flatMap fun state ↦ (stateDeclaration? state.2).toList
  | package document => document.states.map Prod.snd

/-- The types that a document declares, by their names: those at the top level, and the composite
declarations inside types and states. -/
def entries (source : Source) : Set (String × Shape) :=
  declaredEntries source.isV5 source.types ∪
    entriesOf source.isV5 (source.states.flatMap Declaration.parts)

end Source

theorem entriesOf_flatMap {ι : Type} (isV5 : Bool) (items : List ι) (parts : ι → List Declaration) :
    entriesOf isV5 (items.flatMap parts) = ⋃ item ∈ items, entriesOf isV5 (parts item) := by
  induction items with
  | nil => rw [List.flatMap_nil, entriesOf_nil, biUnion_nil]
  | cons item rest ih => rw [List.flatMap_cons, entriesOf_append, ih, biUnion_cons]

/-- The types are listed under different names, and those of the entries are among them. -/
structure Lists (types : List NamedType) (entries : Set (String × Shape)) : Prop where
  nodup : (types.map NamedType.name).Nodup
  mem : ∀ name shape, (name, shape) ∈ entries → { name, shape : NamedType } ∈ types

theorem lists_of_runLower {action : Lower α} {entries : Set (String × Shape)} {value : α}
    {types : List NamedType} (haction : Lowers action entries fun _ ↦ True)
    (h : runLower action = .ok (value, types)) : Lists types entries := by
  unfold runLower at h
  cases hrun : action.run [] with
  | error error =>
    rw [hrun] at h
    cases h
  | ok result =>
    obtain ⟨result, table⟩ := result
    rw [hrun] at h
    cases h
    obtain ⟨-, hhoisted⟩ := haction.ok _ _ _ hrun
    refine ⟨?_, fun name shape hentry ↦ ?_⟩
    · have hperm := (Text.sortByName_perm Prod.fst table).map Prod.fst
      rw [Table.types, List.map_map]
      exact hperm.nodup_iff.mpr (hhoisted.nodup List.nodup_nil)
    · have hmem := mem_of_lookup (hhoisted.found name shape hentry)
      exact List.mem_map.mpr ⟨(name, shape), Text.mem_sortByName.mpr hmem, rfl⟩

theorem isV5_of_parseVersion (source : Source) {version : ApiVersion}
    (h : parseVersion source.apiVersion = .ok version) : version.isV5 = source.isV5 := by
  rw [Source.isV5, Outcome.mapError_eq_ok_iff.mp h]

/-- A dataflow lists the types that its document declares. -/
theorem lists_of_dataflow {document : DataflowDocument} {definition : Dataflow}
    (h : dataflow document = .ok definition) :
    Lists definition.types (Source.dataflow document).entries := by
  obtain ⟨version, hversion, h⟩ := Outcome.bind_eq_ok_iff.mp h
  obtain ⟨⟨services, types⟩, hlower, h⟩ := Outcome.bind_eq_ok_iff.mp h
  cases h
  rw [isV5_of_parseVersion (.dataflow document) hversion] at hlower
  refine lists_of_runLower (Lowers.bind (lowers_declare _ _) fun _ _ ↦ ?_) hlower
  have hstates : entriesOf (Source.dataflow document).isV5
      ((Source.dataflow document).states.flatMap Declaration.parts) =
        ⋃ service ∈ Text.sortByName Prod.fst document.services,
          ⋃ state ∈ service.2.states, stateEntries (Source.dataflow document).isV5 state.2 := by
    simp [Source.states, List.flatMap_assoc, entriesOf_flatMap, stateEntries, Text.mem_sortByName]
  rw [hstates]
  exact .mapM fun service _ ↦ (lowers_lowerService _ _ _).inContext _

/-- A package lists the types that its document declares. -/
theorem lists_of_package {document : PackageDocument} {definition : Package}
    (h : package document = .ok definition) :
    Lists definition.types (Source.package document).entries := by
  obtain ⟨version, hversion, h⟩ := Outcome.bind_eq_ok_iff.mp h
  obtain ⟨⟨⟨states, functions⟩, types⟩, hlower, h⟩ := Outcome.bind_eq_ok_iff.mp h
  cases h
  rw [isV5_of_parseVersion (.package document) hversion] at hlower
  refine lists_of_runLower (Lowers.bind (lowers_declare _ _) fun _ _ ↦ ?_) hlower
  have hstates : entriesOf (Source.package document).isV5
      ((Source.package document).states.flatMap Declaration.parts) =
        (⋃ state ∈ Text.sortByName Prod.fst document.states,
          entriesOf (Source.package document).isV5 state.2.parts) ∪ ∅ := by
    simp [Source.states, List.flatMap_map, entriesOf_flatMap, Text.mem_sortByName]
  rw [hstates]
  refine Lowers.bind (Lowers.mapM ?_) fun states _ ↦ ?_
  · rintro ⟨name, declaration⟩ -
    dsimp only
    rw [bind_pure_comp]
    exact ((lowers_keyedStateOf _ _).inContext _).map fun _ _ ↦ trivial
  · exact (Idle.listMapM idle_lowerFunction).bind fun functions ↦ .pure _

end FlowSpec.Lowering
