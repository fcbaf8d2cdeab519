import FlowSpec.Lowering.Definition
import FlowSpec.Proofs.Scope.Declarations

/-!
Lines of a document. Declarations and steps keep the lines on which they stand, for messages of the
reader. Lowering does not look at them: a document without its lines is lowered alike
(`dataflow_unlined`), to the same definition or with the same error.
-/

set_option autoImplicit false

namespace FlowSpec

/-- Entries that keep their keys keep their order. -/
theorem Text.sortByName_map {α β : Type} (f : α → β) (entries : List (String × α)) :
    sortByName Prod.fst (entries.map (Prod.map id f)) =
      (sortByName Prod.fst entries).map (Prod.map id f) := by
  refine (List.map_mergeSort fun first _ second _ ↦ ?_).symm
  rfl

namespace Document

/-! ### Documents without lines -/

def DeclarationInfo.unlined (info : DeclarationInfo) : DeclarationInfo := { info with line := 0 }

namespace Declaration

mutual

/-- The declaration without its lines. -/
def unlined : Declaration → Declaration
  | plain info type => plain info.unlined type
  | object info properties => object info.unlined (unlinedProperties properties)
  | enumeration info tagging variants => enumeration info.unlined tagging (unlinedVariants variants)
  | list info items => list info.unlined items.unlined
  | option info value => option info.unlined value.unlined
  | keyedState info key value => keyedState info.unlined key.unlined value.unlined
  | keyValue info key value => keyValue info.unlined key.unlined value.unlined
  | row info columns => row info.unlined columns

def unlinedProperties : List (Property Declaration) → List (Property Declaration)
  | [] => []
  | ⟨name, type, isOptional, serialize, deserialize⟩ :: rest =>
    ⟨name, type.unlined, isOptional, serialize, deserialize⟩ :: unlinedProperties rest

def unlinedVariants : List (Alternative Declaration) → List (Alternative Declaration)
  | [] => []
  | ⟨name, none, serialize, deserialize⟩ :: rest =>
    ⟨name, none, serialize, deserialize⟩ :: unlinedVariants rest
  | ⟨name, some type, serialize, deserialize⟩ :: rest =>
    ⟨name, some type.unlined, serialize, deserialize⟩ :: unlinedVariants rest

end

end Declaration

def StepEntry.unlined (entry : StepEntry) : StepEntry := { entry with line := 0 }

def PartitionEntry.unlined (entry : PartitionEntry) : PartitionEntry :=
  { entry with
    assignKey := entry.assignKey.unlined
    transforms := entry.transforms.map StepEntry.unlined
    updateState := entry.updateState.map StepEntry.unlined }

def WindowEntry.unlined (entry : WindowEntry) : WindowEntry :=
  { entry with
    assignTimestamp := entry.assignTimestamp.unlined
    transforms := entry.transforms.map StepEntry.unlined
    partition := entry.partition.map PartitionEntry.unlined
    flush := entry.flush.map StepEntry.unlined }

def EndpointEntry.unlined (entry : EndpointEntry) : EndpointEntry :=
  { entry with transforms := entry.transforms.map StepEntry.unlined }

def StateEntry.unlined : StateEntry → StateEntry
  | declared declaration => declared declaration.unlined
  | reference target => reference target
  | system kind => system kind

def ServiceEntry.unlined (entry : ServiceEntry) : ServiceEntry where
  sources := entry.sources.map EndpointEntry.unlined
  sinks := entry.sinks.map EndpointEntry.unlined
  transforms := entry.transforms.map StepEntry.unlined
  window := entry.window.map WindowEntry.unlined
  partition := entry.partition.map PartitionEntry.unlined
  states := entry.states.map (Prod.map id StateEntry.unlined)

/-- The document without the lines of its declarations and steps. -/
def DataflowDocument.unlined (document : DataflowDocument) : DataflowDocument :=
  { document with
    types := document.types.map (Prod.map id Declaration.unlined)
    services := document.services.map (Prod.map id ServiceEntry.unlined) }

end Document

namespace Lowering

open Document

/-! ### Declarations -/

theorem reference_list_unlined (info : DeclarationInfo) (items : Declaration)
    (shape : Lower Shape) :
    reference (.list info.unlined items.unlined) shape = reference (.list info items) shape := by
  obtain ⟨line, typeName⟩ := info
  by_cases hname : typeName = ""
  · subst hname
    rfl
  · have hnamed (line : Nat) (items : Declaration) :
        reference (.list ⟨line, typeName⟩ items) shape =
          if typeName.isEmpty then fail .nestedTypeName
          else do
            let lowered ← inContext (named "type" typeName) shape
            hoist typeName lowered
            return typeName := by
      unfold reference
      split
      next heq => cases heq
      next heq =>
        cases heq
        exact absurd rfl hname
      next => rfl
    exact (hnamed 0 items.unlined).trans (hnamed line items).symm

theorem reference_unlined (declaration : Declaration) (shape : Lower Shape) :
    reference declaration.unlined shape = reference declaration shape := by
  cases declaration with
  | list info items => exact reference_list_unlined info items shape
  | _ => rfl

theorem stateValue_row_unlined (info : DeclarationInfo) (columns : List Column)
    (shape : Lower Shape) :
    stateValue (.row info.unlined columns) shape = stateValue (.row info columns) shape := by
  obtain ⟨line, typeName⟩ := info
  by_cases hname : typeName = ""
  · subst hname
    rfl
  · have hnamed (line : Nat) : stateValue (.row ⟨line, typeName⟩ columns) shape =
        .unresolved <$> inContext "value" (reference (.row ⟨line, typeName⟩ columns) shape) := by
      unfold stateValue
      split
      next heq =>
        cases heq
        exact absurd rfl hname
      next heq => cases heq
      next => rfl
    exact (hnamed 0).trans (hnamed line).symm

theorem stateValue_unlined (declaration : Declaration) (shape : Lower Shape) :
    stateValue declaration.unlined shape = stateValue declaration shape := by
  cases declaration with
  | list info items =>
    change StateValue.unresolved <$> inContext "value" (reference _ shape) = _
    rw [reference_unlined]
    rfl
  | row info columns => exact stateValue_row_unlined info columns shape
  | _ => rfl

mutual

theorem shapeOf_unlined (isV5 : Bool) (declaration : Declaration) :
    shapeOf isV5 declaration.unlined = shapeOf isV5 declaration := by
  cases declaration with
  | plain info type => rfl
  | object info properties => rw [Declaration.unlined, shapeOf, shapeOf, fieldsOf_unlined]
  | enumeration info tagging variants =>
    rw [Declaration.unlined, shapeOf, shapeOf, variantsOf_unlined]
  | list info items =>
    rw [Declaration.unlined, shapeOf, shapeOf, reference_unlined, shapeOf_unlined isV5 items]
  | option info value =>
    rw [Declaration.unlined, shapeOf, shapeOf, reference_unlined, shapeOf_unlined isV5 value]
  | keyedState info key value =>
    rw [Declaration.unlined, shapeOf, shapeOf, reference_unlined, stateValue_unlined,
      shapeOf_unlined isV5 key, shapeOf_unlined isV5 value]
  | keyValue info key value =>
    rw [Declaration.unlined, shapeOf, shapeOf, reference_unlined, reference_unlined,
      shapeOf_unlined isV5 key, shapeOf_unlined isV5 value]
  | row info columns => rfl

theorem fieldsOf_unlined (isV5 : Bool) (properties : List (Property Declaration)) :
    fieldsOf isV5 (Declaration.unlinedProperties properties) = fieldsOf isV5 properties := by
  cases properties with
  | nil => rfl
  | cons property rest =>
    obtain ⟨name, type, isOptional, serialize, deserialize⟩ := property
    rw [Declaration.unlinedProperties, fieldsOf, fieldsOf, reference_unlined,
      shapeOf_unlined isV5 type, fieldsOf_unlined isV5 rest]

theorem variantsOf_unlined (isV5 : Bool) (variants : List (Alternative Declaration)) :
    variantsOf isV5 (Declaration.unlinedVariants variants) = variantsOf isV5 variants := by
  cases variants with
  | nil => rfl
  | cons variant rest =>
    obtain ⟨name, payload, serialize, deserialize⟩ := variant
    cases payload with
    | none => rw [Declaration.unlinedVariants, variantsOf, variantsOf, variantsOf_unlined isV5 rest]
    | some type =>
      rw [Declaration.unlinedVariants, variantsOf, variantsOf, variantsOf_unlined isV5 rest]
      dsimp only
      rw [reference_unlined, shapeOf_unlined isV5 type]

end

theorem keyedStateOf_unlined (isV5 : Bool) (declaration : Declaration) :
    keyedStateOf isV5 declaration.unlined = keyedStateOf isV5 declaration := by
  have htype : declaration.unlined.type = declaration.type := by cases declaration <;> rfl
  rw [keyedStateOf, shapeOf_unlined, htype, keyedStateOf]

theorem declare_unlined (isV5 : Bool) (declarations : List (String × Declaration)) :
    declare isV5 (declarations.map (Prod.map id Declaration.unlined)) =
      declare isV5 declarations := by
  have hname (declaration : Declaration) :
      declaration.unlined.info.typeName = declaration.info.typeName := by
    cases declaration <;> rfl
  rw [declare, declare, Text.sortByName_map, List.forM_eq_forM, List.forM_map]
  simp only [Prod.map_fst, Prod.map_snd, id_eq, hname, shapeOf_unlined]

/-! ### Services -/

theorem lowerTransforms_unlined (index : Nat) (entries : List StepEntry) :
    lowerTransforms index (entries.map StepEntry.unlined) = lowerTransforms index entries := by
  induction entries generalizing index with
  | nil => rfl
  | cons entry rest ih =>
    rw [List.map_cons, lowerTransforms, lowerTransforms, ih]
    rfl

theorem lowerStep_unlined (entry : StepEntry) : lowerStep entry.unlined = lowerStep entry := rfl

theorem optionMapM_map {α β γ : Type} (f : α → β) (step : β → Lower γ) (item : Option α) :
    (item.map f).mapM step = item.mapM fun value ↦ step (f value) := by
  cases item <;> rfl

theorem lowerPartition_unlined (entry : PartitionEntry) :
    lowerPartition entry.unlined = lowerPartition entry := by
  unfold lowerPartition PartitionEntry.unlined
  simp only [lowerTransforms_unlined, lowerStep_unlined, optionMapM_map]

theorem lowerWindow_unlined (entry : WindowEntry) :
    lowerWindow entry.unlined = lowerWindow entry := by
  unfold lowerWindow WindowEntry.unlined
  simp only [lowerTransforms_unlined, lowerStep_unlined, lowerPartition_unlined, optionMapM_map]

theorem lowerEndpoint_unlined (entry : EndpointEntry) :
    lowerEndpoint entry.unlined = lowerEndpoint entry := by
  unfold lowerEndpoint EndpointEntry.unlined
  simp only [lowerTransforms_unlined]

theorem lowerState_unlined (isV5 : Bool) (name : String) (entry : StateEntry) :
    lowerState isV5 name entry.unlined = lowerState isV5 name entry := by
  cases entry with
  | declared declaration =>
    rw [StateEntry.unlined, lowerState, keyedStateOf_unlined, lowerState]
  | reference target => rfl
  | system kind => rfl

theorem lowerService_unlined (isV5 : Bool) (name : String) (entry : ServiceEntry) :
    lowerService isV5 name entry.unlined = lowerService isV5 name entry := by
  unfold lowerService ServiceEntry.unlined
  simp only [Text.sortByName_map, List.mapM_map, optionMapM_map, Function.comp_def, Prod.map_fst,
    Prod.map_snd, id_eq, lowerEndpoint_unlined, lowerTransforms_unlined, lowerPartition_unlined,
    lowerWindow_unlined, lowerState_unlined]

/-- A document is lowered without a look at its lines. -/
theorem dataflow_unlined (document : DataflowDocument) :
    dataflow document.unlined = dataflow document := by
  unfold dataflow DataflowDocument.unlined
  simp only [declare_unlined, Text.sortByName_map, List.mapM_map, Function.comp_def, Prod.map_fst,
    Prod.map_snd, id_eq, lowerService_unlined]
  rfl

end Lowering

end FlowSpec
