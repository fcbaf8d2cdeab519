import FlowSpec.Proofs.Outcome
import FlowSpec.Service.Edit
import Mathlib.Data.List.InsertIdx

/-!
Edits of services. A service is its outline, which has all blocks of transforms empty, and the
operations of its blocks (`eq_of_outline`). An edit replaces the operations of the block that the
placement selects and keeps the rest (`editBlock_eq_ok_iff`), so that edits which undo one another
on a block undo one another on the service.
-/

set_option autoImplicit false

namespace FlowSpec

/-! ### Outlines -/

namespace Partition

/-- The partition without the operations of its block. -/
def outline (partition : Partition) : Partition := { partition with transforms := [] }

def withTransforms (operations : List Operation) (partition : Partition) : Partition :=
  { partition with transforms := operations }

@[simp]
theorem outline_withTransforms (operations : List Operation) (partition : Partition) :
    (partition.withTransforms operations).outline = partition.outline := rfl

@[simp]
theorem transforms_withTransforms (operations : List Operation) (partition : Partition) :
    (partition.withTransforms operations).transforms = operations := rfl

theorem eq_of_outline {partition other : Partition} (houtline : partition.outline = other.outline)
    (htransforms : partition.transforms = other.transforms) : partition = other := by
  obtain ⟨assignKey, transforms, updateState⟩ := partition
  obtain ⟨otherKey, otherTransforms, otherUpdate⟩ := other
  simp only [outline, mk.injEq] at houtline
  obtain ⟨rfl, -, rfl⟩ := houtline
  obtain rfl : transforms = otherTransforms := htransforms
  rfl

end Partition

/-- What is optional is told by two of its views if these tell it where it is there. -/
theorem option_eq_of_map_eq {α β γ : Type} {f : α → β} {g : α → γ} {first second : Option α}
    (htold : ∀ a b, f a = f b → g a = g b → a = b) (hf : first.map f = second.map f)
    (hg : first.map g = second.map g) : first = second := by
  cases first with
  | none => simpa [eq_comm] using hf
  | some a =>
    obtain ⟨b, rfl, hb⟩ := Option.map_eq_some_iff.mp hf.symm
    rw [htold a b hb.symm (Option.some.inj hg)]

namespace Window

/-- The window without the operations of its two blocks. -/
def outline (window : Window) : Window :=
  { window with transforms := [], partition := window.partition.map Partition.outline }

def withTransforms (operations : List Operation) (window : Window) : Window :=
  { window with transforms := operations }

def withPartition (operations : List Operation) (window : Window) : Window :=
  { window with partition := window.partition.map (Partition.withTransforms operations) }

@[simp]
theorem outline_withTransforms (operations : List Operation) (window : Window) :
    (window.withTransforms operations).outline = window.outline := rfl

@[simp]
theorem outline_withPartition (operations : List Operation) (window : Window) :
    (window.withPartition operations).outline = window.outline := by
  simp [outline, withPartition, Option.map_map, Function.comp_def]

theorem eq_of_outline {window other : Window} (houtline : window.outline = other.outline)
    (htransforms : window.transforms = other.transforms)
    (hpartition : window.partition.map Partition.transforms =
      other.partition.map Partition.transforms) :
    window = other := by
  obtain ⟨size, idleness, grace, assign, transforms, partition, flush⟩ := window
  obtain ⟨otherSize, otherIdleness, otherGrace, otherAssign, otherTransforms, otherPartition,
      otherFlush⟩ := other
  simp only [outline, mk.injEq, true_and] at houtline
  obtain ⟨rfl, rfl, rfl, rfl, hinside, rfl⟩ := houtline
  obtain rfl : transforms = otherTransforms := htransforms
  obtain rfl := option_eq_of_map_eq (fun _ _ ↦ Partition.eq_of_outline) hinside hpartition
  rfl

end Window

namespace Service

/-- The service with all blocks of transforms empty. -/
def outline (service : Service) : Service :=
  { service with
    transforms := []
    window := service.window.map Window.outline
    partition := service.partition.map Partition.outline }

/-! ### Blocks -/

/-- The blocks of transforms that a placement can select. -/
inductive Block where
  | main
  | window
  | partition
  | windowPartition
deriving DecidableEq

def Placement.block (placement : Placement) : Block :=
  if placement.inWindow then
    if placement.inPartition then .windowPartition else .window
  else if placement.inPartition then .partition else .main

/-- The operations of a block, if the service has the block. -/
def block? (service : Service) : Block → Option (List Operation)
  | .main => some service.transforms
  | .window => service.window.map Window.transforms
  | .partition => service.partition.map Partition.transforms
  | .windowPartition => (service.window.bind Window.partition).map Partition.transforms

/-- The service with other operations in a block. -/
def setBlock (service : Service) (operations : List Operation) : Block → Service
  | .main => { service with transforms := operations }
  | .window => { service with window := service.window.map (Window.withTransforms operations) }
  | .partition =>
    { service with partition := service.partition.map (Partition.withTransforms operations) }
  | .windowPartition =>
    { service with window := service.window.map (Window.withPartition operations) }

/-- A service is told by its outline and its blocks. -/
theorem eq_of_outline {service other : Service} (houtline : service.outline = other.outline)
    (hblocks : ∀ block, service.block? block = other.block? block) : service = other := by
  have hmain := hblocks .main
  have hwindow := hblocks .window
  have hpartition := hblocks .partition
  have hinside := hblocks .windowPartition
  obtain ⟨name, sources, sinks, transforms, window, partition, states⟩ := service
  obtain ⟨otherName, otherSources, otherSinks, otherTransforms, otherWindow, otherPartition,
      otherStates⟩ := other
  simp only [outline, mk.injEq, true_and] at houtline
  simp only [block?, Option.some.injEq] at hmain hwindow hpartition hinside
  obtain ⟨rfl, rfl, rfl, houtside, houtline, rfl⟩ := houtline
  obtain rfl := hmain
  obtain rfl := option_eq_of_map_eq (fun _ _ ↦ Partition.eq_of_outline) houtline hpartition
  cases window with
  | none =>
    obtain rfl : otherWindow = none := by simpa [eq_comm] using houtside
    rfl
  | some window =>
    obtain ⟨other, rfl, hother⟩ := Option.map_eq_some_iff.mp houtside.symm
    obtain rfl := Window.eq_of_outline hother.symm (Option.some.inj hwindow) hinside
    rfl

/-! ### Replaced blocks -/

/-- The second service has the given operations in a block and is the first one elsewhere. -/
structure Replaces (block : Block) (operations : List Operation) (service edited : Service) :
    Prop where
  outline : edited.outline = service.outline
  selected : edited.block? block = some operations
  others : ∀ other, other ≠ block → edited.block? other = service.block? other

variable {service edited other : Service} {block : Block} {operations changed : List Operation}

theorem Replaces.unique (h : Replaces block operations service edited)
    (h' : Replaces block operations service other) :
    edited = other := by
  refine eq_of_outline (h.outline.trans h'.outline.symm) fun part ↦ ?_
  by_cases hpart : part = block
  · rw [hpart, h.selected, h'.selected]
  · rw [h.others part hpart, h'.others part hpart]

/-- Putting the old operations back is a replacement too. -/
theorem Replaces.symm (h : Replaces block changed service edited)
    (hblock : service.block? block = some operations) :
    Replaces block operations edited service :=
  ⟨h.outline.symm, hblock, fun part hpart ↦ (h.others part hpart).symm⟩

theorem outline_setBlock (service : Service) (changed : List Operation) (block : Block) :
    (service.setBlock changed block).outline = service.outline := by
  cases block <;> simp [outline, setBlock, Option.map_map, Function.comp_def]

theorem block?_setBlock_self (hblock : service.block? block = some operations)
    (changed : List Operation) :
    (service.setBlock changed block).block? block = some changed := by
  cases block with
  | main => rfl
  | window =>
    obtain ⟨window, hwindow, -⟩ := Option.map_eq_some_iff.mp hblock
    simp [setBlock, block?, hwindow, Window.withTransforms]
  | partition =>
    obtain ⟨partition, hpartition, -⟩ := Option.map_eq_some_iff.mp hblock
    simp [setBlock, block?, hpartition]
  | windowPartition =>
    obtain ⟨partition, hinside, -⟩ := Option.map_eq_some_iff.mp hblock
    obtain ⟨window, hwindow, hpartition⟩ := Option.bind_eq_some_iff.mp hinside
    simp [setBlock, block?, hwindow, hpartition, Window.withPartition]

theorem block?_setBlock_of_ne {part : Block} (hpart : part ≠ block) (service : Service)
    (changed : List Operation) :
    (service.setBlock changed block).block? part = service.block? part := by
  cases hwindow : service.window <;> cases block <;> cases part <;>
    simp_all [setBlock, block?, Window.withTransforms, Window.withPartition]

theorem replaces_setBlock (hblock : service.block? block = some operations)
    (changed : List Operation) :
    Replaces block changed service (service.setBlock changed block) where
  outline := outline_setBlock service changed block
  selected := block?_setBlock_self hblock changed
  others := fun _ hpart ↦ block?_setBlock_of_ne hpart service changed

/-! ### Operations of the pipeline -/

/-- What is made of a list is the list between two others that do not depend on it. -/
def Encloses (whole : List Operation → List Operation) : Prop :=
  ∃ before after, ∀ part, whole part = before ++ part ++ after

theorem Encloses.id : Encloses fun part ↦ part := ⟨[], [], by simp⟩

theorem Encloses.append_left {whole : List Operation → List Operation} (h : Encloses whole)
    (front : List Operation) :
    Encloses fun part ↦ front ++ whole part := by
  obtain ⟨before, after, h⟩ := h
  exact ⟨front ++ before, after, by simp [h]⟩

theorem Encloses.append_right {whole : List Operation → List Operation} (h : Encloses whole)
    (back : List Operation) :
    Encloses fun part ↦ whole part ++ back := by
  obtain ⟨before, after, h⟩ := h
  exact ⟨before, after ++ back, by simp [h]⟩

theorem encloses_partition (partition : Partition) :
    Encloses fun changed ↦ (partition.withTransforms changed).operations := by
  simp only [Partition.operations, Partition.withTransforms]
  exact (Encloses.id.append_left [⟨.assignKey, partition.assignKey⟩]).append_right _

theorem encloses_window (window : Window) :
    Encloses fun changed ↦ (window.withTransforms changed).operations := by
  simp only [Window.operations, Window.withTransforms]
  exact ((Encloses.id.append_left [⟨.assignTimestamp, window.assignTimestamp⟩]).append_right
      _).append_right _

theorem encloses_windowPartition {window : Window} {partition : Partition}
    (h : window.partition = some partition) :
    Encloses fun changed ↦ (window.withPartition changed).operations := by
  simp only [Window.operations, Window.withPartition, h, Option.map_some, Option.getD_some]
  exact ((encloses_partition partition).append_left _).append_right _

/-- The operations of a block stand together in the pipeline, between others that do not depend on
them. -/
theorem encloses_block (hblock : service.block? block = some operations) :
    Encloses fun changed ↦ (service.setBlock changed block).operations := by
  cases block with
  | main =>
    simp only [Service.operations, setBlock]
    exact (((Encloses.id.append_left _).append_right _).append_right _).append_right _
  | window =>
    obtain ⟨window, hwindow, -⟩ := Option.map_eq_some_iff.mp hblock
    simp only [Service.operations, setBlock, hwindow, Option.map_some, Option.getD_some]
    exact (((encloses_window window).append_left _).append_right _).append_right _
  | partition =>
    obtain ⟨partition, hpartition, -⟩ := Option.map_eq_some_iff.mp hblock
    simp only [Service.operations, setBlock, hpartition, Option.map_some, Option.getD_some]
    exact ((encloses_partition partition).append_left _).append_right _
  | windowPartition =>
    obtain ⟨partition, hinside, -⟩ := Option.map_eq_some_iff.mp hblock
    obtain ⟨window, hwindow, hpartition⟩ := Option.bind_eq_some_iff.mp hinside
    simp only [Service.operations, setBlock, hwindow, Option.map_some, Option.getD_some]
    exact (((encloses_windowPartition hpartition).append_left _).append_right _).append_right _

/-- A block whose operations are replaced is replaced where it stands in the pipeline. -/
theorem Replaces.exists_operations_eq (h : Replaces block changed service edited)
    (hblock : service.block? block = some operations) :
    ∃ before after, service.operations = before ++ operations ++ after ∧
      edited.operations = before ++ changed ++ after := by
  obtain ⟨before, after, henclosed⟩ := encloses_block hblock
  have hsame : Replaces block operations service service := ⟨rfl, hblock, fun _ _ ↦ rfl⟩
  rw [hsame.unique (replaces_setBlock hblock operations),
    h.unique (replaces_setBlock hblock changed)]
  exact ⟨before, after, henclosed operations, henclosed changed⟩

/-! ### Edits -/

/-- An edit fails where there is no block, and changes the operations of the block where there is
one. -/
theorem editBlock_cases (verb : Verb) (placement : Placement)
    (edit : List Operation → Except EditError (List Operation)) (service : Service) :
    (service.block? placement.block = none ∧ ∃ error,
      service.editBlock verb placement edit = .error error) ∨
      ∃ operations, service.block? placement.block = some operations ∧
        service.editBlock verb placement edit =
          (service.setBlock · placement.block) <$> edit operations := by
  obtain ⟨inWindow, inPartition, index⟩ := placement
  cases inWindow <;> cases inPartition
  · exact .inr ⟨service.transforms, rfl, bind_pure_comp _ _⟩
  · cases hpartition : service.partition with
    | none =>
      exact .inl ⟨by simp [Placement.block, block?, hpartition], by simp [editBlock, hpartition]⟩
    | some partition =>
      refine .inr ⟨partition.transforms, by simp [Placement.block, block?, hpartition], ?_⟩
      simp [editBlock, Placement.block, setBlock, hpartition, Partition.withTransforms]
  · cases hwindow : service.window with
    | none => exact .inl ⟨by simp [Placement.block, block?, hwindow], by simp [editBlock, hwindow]⟩
    | some window =>
      refine .inr ⟨window.transforms, by simp [Placement.block, block?, hwindow], ?_⟩
      simp [editBlock, Placement.block, setBlock, hwindow, Window.withTransforms]
  · cases hwindow : service.window with
    | none => exact .inl ⟨by simp [Placement.block, block?, hwindow], by simp [editBlock, hwindow]⟩
    | some window =>
      cases hpartition : window.partition with
      | none =>
        exact .inl ⟨by simp [Placement.block, block?, hwindow, hpartition],
          by simp [editBlock, hwindow, hpartition]⟩
      | some partition =>
        refine .inr
          ⟨partition.transforms, by simp [Placement.block, block?, hwindow, hpartition], ?_⟩
        simp [editBlock, Placement.block, setBlock, hwindow, hpartition, Window.withPartition,
          Partition.withTransforms]

theorem editBlock_eq_ok_iff {verb : Verb} {placement : Placement}
    {edit : List Operation → Except EditError (List Operation)} :
    service.editBlock verb placement edit = .ok edited ↔ ∃ operations changed,
      service.block? placement.block = some operations ∧ edit operations = .ok changed ∧
        Replaces placement.block changed service edited := by
  rcases editBlock_cases verb placement edit service with ⟨hblock, error, hedit⟩ |
    ⟨operations, hblock, hedit⟩
  · simp [hblock, hedit]
  · rw [hedit]
    refine Outcome.map_eq_ok_iff.trans ⟨?_, ?_⟩
    · rintro ⟨changed, hchanged, rfl⟩
      exact ⟨operations, changed, hblock, hchanged, replaces_setBlock hblock changed⟩
    · rintro ⟨others, changed, hothers, hchanged, hreplaces⟩
      obtain rfl : operations = others := Option.some.inj (hblock.symm.trans hothers)
      exact ⟨changed, hchanged, (replaces_setBlock hblock changed).unique hreplaces⟩

theorem insertIdx_eq_append {position : Nat} (h : position ≤ operations.length)
    (operation : Operation) :
    operations.insertIdx position operation =
      operations.take position ++ operation :: operations.drop position := by
  induction operations generalizing position with
  | nil =>
    obtain rfl : position = 0 := by simpa using h
    rfl
  | cons first rest ih =>
    cases position with
    | zero => rfl
    | succ position => simp [ih (Nat.le_of_succ_le_succ h)]

theorem inBounds_iff {index : Int} {bound : Nat} :
    inBounds index bound ↔ ∃ position : Nat, index = position ∧ position ≤ bound := by
  simp only [inBounds, Bool.and_eq_true, decide_eq_true_eq]
  constructor
  · rintro ⟨hnonneg, hle⟩
    obtain ⟨position, rfl⟩ := Int.eq_ofNat_of_zero_le hnonneg
    exact ⟨position, rfl, Int.ofNat_le.mp hle⟩
  · rintro ⟨position, rfl, hle⟩
    exact ⟨Int.natCast_nonneg position, Int.ofNat_le.mpr hle⟩

theorem insertOperation_eq_ok_iff {index : Option Int} {operation : Operation} :
    insertOperation index operation operations = .ok changed ↔
      ∃ position : Nat, index = some (position : Int) ∧
      position ≤ operations.length ∧ operation.operator.isTransform ∧
        changed = operations.insertIdx position operation := by
  constructor
  · intro h
    cases index with
    | none => cases h
    | some index =>
      cases hbounds : inBounds index operations.length with
      | false => simp [insertOperation, hbounds] at h
      | true =>
        obtain ⟨position, rfl, hlength⟩ := inBounds_iff.mp hbounds
        cases htransform : operation.operator.isTransform with
        | false => simp [insertOperation, hbounds, htransform] at h
        | true =>
          refine ⟨position, rfl, hlength, rfl, ?_⟩
          rw [insertIdx_eq_append hlength]
          simpa [insertOperation, hbounds, htransform, eq_comm] using h
  · rintro ⟨position, rfl, hlength, htransform, rfl⟩
    have hbounds := inBounds_iff.mpr ⟨position, rfl, hlength⟩
    rw [insertIdx_eq_append hlength]
    simp [insertOperation, hbounds, htransform]

theorem deleteOperation_eq_ok_iff {index : Option Int} :
    deleteOperation index operations = .ok changed ↔
      ∃ position : Nat, index = some (position : Int) ∧
      position < operations.length ∧ changed = operations.eraseIdx position := by
  constructor
  · intro h
    cases index with
    | none => cases h
    | some index =>
      simp only [deleteOperation] at h
      split_ifs at h with hbounds
      simp only [Bool.and_eq_true, decide_eq_true_eq] at hbounds
      obtain ⟨position, rfl⟩ := Int.eq_ofNat_of_zero_le hbounds.1
      exact ⟨position, rfl, Int.ofNat_lt.mp hbounds.2, (Except.ok.inj h).symm⟩
  · rintro ⟨position, rfl, hlength, rfl⟩
    simp [deleteOperation, hlength]

/-! ### Insertions -/

/-- The second service is the first with one more operation, at the index in the block that the
placement selects. -/
def Inserts (placement : Placement) (operation : Operation) (service edited : Service) : Prop :=
  ∃ (operations : List Operation) (position : Nat),
    service.block? placement.block = some operations ∧
    placement.index = some (position : Int) ∧ position ≤ operations.length ∧
    Replaces placement.block (operations.insertIdx position operation) service edited

variable {placement : Placement} {operation : Operation}

/-- What a service lists gains the operation that is inserted, and nothing else. -/
theorem Inserts.exists_operations_eq (h : Inserts placement operation service edited) :
    ∃ before after, service.operations = before ++ after ∧
      edited.operations = before ++ operation :: after := by
  obtain ⟨operations, position, hblock, -, hlength, hreplaces⟩ := h
  obtain ⟨before, after, hservice, hedited⟩ := hreplaces.exists_operations_eq hblock
  refine ⟨before ++ operations.take position, operations.drop position ++ after, ?_, ?_⟩
  · calc
      service.operations =
        before ++ (operations.take position ++ operations.drop position) ++ after := by
        rw [hservice, List.take_append_drop]
      _ = before ++ operations.take position ++ (operations.drop position ++ after) := by
        simp only [List.append_assoc]
  · rw [hedited, insertIdx_eq_append hlength]
    simp

theorem add_eq_ok_iff : service.add placement operation = .ok edited ↔
    operation.operator.isTransform ∧ Inserts placement operation service edited := by
  rw [add, editBlock_eq_ok_iff]
  constructor
  · rintro ⟨operations, changed, hblock, hinsert, hreplaces⟩
    obtain ⟨position, hindex, hlength, htransform, rfl⟩ := insertOperation_eq_ok_iff.mp hinsert
    exact ⟨htransform, operations, position, hblock, hindex, hlength, hreplaces⟩
  · rintro ⟨htransform, operations, position, hblock, hindex, hlength, hreplaces⟩
    exact ⟨operations, _, hblock,
      insertOperation_eq_ok_iff.mpr ⟨position, hindex, hlength, htransform, rfl⟩, hreplaces⟩

/-- Deletions are insertions read backwards. -/
theorem delete_eq_ok_iff : service.delete placement = .ok edited ↔
    ∃ removed, Inserts placement removed edited service := by
  rw [delete, editBlock_eq_ok_iff]
  constructor
  · rintro ⟨operations, changed, hblock, hdelete, hreplaces⟩
    obtain ⟨position, hindex, hlength, rfl⟩ := deleteOperation_eq_ok_iff.mp hdelete
    refine ⟨operations.get ⟨position, hlength⟩, _, position, hreplaces.selected, hindex, ?_, ?_⟩
    · rw [List.length_eraseIdx_of_lt hlength]
      exact Nat.le_sub_one_of_lt hlength
    · rw [List.get_eq_getElem, List.insertIdx_eraseIdx_getElem hlength]
      exact hreplaces.symm hblock
  · rintro ⟨removed, operations, position, hblock, hindex, hlength, hreplaces⟩
    refine ⟨_, operations, hreplaces.selected, ?_, hreplaces.symm hblock⟩
    refine deleteOperation_eq_ok_iff.mpr ⟨position, hindex, ?_,
      List.eraseIdx_insertIdx_self removed |>.symm⟩
    rw [List.length_insertIdx_of_le_length hlength]
    exact Nat.lt_succ_of_le hlength

/-- The operators of all blocks may stand in blocks of transforms. -/
def HoldsTransforms (service : Service) : Prop :=
  ∀ block operations, service.block? block = some operations →
    ∀ operation ∈ operations, operation.operator.isTransform

theorem HoldsTransforms.isTransform (h : service.HoldsTransforms)
    (hinserts : Inserts placement operation edited service) : operation.operator.isTransform := by
  obtain ⟨operations, position, -, -, hlength, hreplaces⟩ := hinserts
  exact h _ _ hreplaces.selected operation ((List.mem_insertIdx hlength).mpr (.inl rfl))

/-- An operation can be added exactly where the block exists, the index is given and within the
block or at its end, and the operator is a transform. The edited service is the old one with the
operation inserted, its pipeline has that operation more, and deleting at the same place gives the
old service back. What is deleted can be added back. -/
theorem edits_exact_and_invertible (service : Service) (h : service.HoldsTransforms)
    (placement : Placement) (operation : Operation) :
    ((∃ edited, service.add placement operation = .ok edited) ↔
      operation.operator.isTransform ∧ ∃ operations,
        service.block? placement.block = some operations ∧
        ∃ index, placement.index = some index ∧ 0 ≤ index ∧ index ≤ operations.length) ∧
    (∀ edited, service.add placement operation = .ok edited →
      Inserts placement operation service edited ∧
      (∃ before after, service.operations = before ++ after ∧
        edited.operations = before ++ operation :: after) ∧
      edited.delete placement = .ok service) ∧
    ∀ edited, service.delete placement = .ok edited →
      ∃ removed, Inserts placement removed edited service ∧
      edited.add placement removed = .ok service := by
  refine ⟨⟨?_, ?_⟩, ?_, ?_⟩
  · rintro ⟨edited, hadd⟩
    obtain ⟨htransform, operations, position, hblock, hindex, hlength, -⟩ := add_eq_ok_iff.mp hadd
    exact ⟨htransform, operations, hblock, position, hindex, Int.natCast_nonneg position,
      Int.ofNat_le.mpr hlength⟩
  · rintro ⟨htransform, operations, hblock, index, hindex, hnonneg, hlength⟩
    obtain ⟨position, rfl⟩ := Int.eq_ofNat_of_zero_le hnonneg
    exact ⟨_, add_eq_ok_iff.mpr ⟨htransform, operations, position, hblock, hindex,
        Int.ofNat_le.mp hlength,
      replaces_setBlock hblock _⟩⟩
  · intro edited hadd
    have hinserts := (add_eq_ok_iff.mp hadd).2
    exact ⟨hinserts, hinserts.exists_operations_eq, delete_eq_ok_iff.mpr ⟨operation, hinserts⟩⟩
  · intro edited hdelete
    obtain ⟨removed, hinserts⟩ := delete_eq_ok_iff.mp hdelete
    exact ⟨removed, hinserts, add_eq_ok_iff.mpr ⟨h.isTransform hinserts, hinserts⟩⟩

/-- Groups orders by the hour and then by customer, and has transforms behind both. -/
def hourlyService (operations : List Operation) : Service :=
  { name := "hourly"
    sources := [{ kind := .topic, id := "orders" }]
    window := some
      { size := .tumbling 3600000 0
        assignTimestamp := { uses := "time-of-order" }
        partition :=
          some { assignKey := { uses := "customer-of-order" }, transforms := operations } } }

def addTax : Operation := { operator := .map, step := { uses := "add-tax" } }

def keepLarge : Operation := { operator := .filter, step := { uses := "keep-large" } }

/-- Behind the first operation of the partition of the window. -/
def behindFirst : Placement := { inWindow := true, inPartition := true, index := some 1 }

theorem holdsTransforms_hourlyService : (hourlyService [addTax]).HoldsTransforms := by
  intro block operations hblock operation hoperation
  cases block with
  | main =>
    cases hblock
    cases hoperation
  | window =>
    cases hblock
    cases hoperation
  | partition => cases hblock
  | windowPartition =>
    cases hblock
    obtain rfl := List.mem_singleton.mp hoperation
    rfl

/-- An operation is put at the end of the block of transforms that lies deepest, and taken out
again. -/
theorem edits_exact_and_invertible_hourly :
    (hourlyService [addTax]).HoldsTransforms ∧
      (hourlyService [addTax]).add behindFirst keepLarge = .ok (hourlyService [addTax, keepLarge]) ∧
      Inserts behindFirst keepLarge (hourlyService [addTax]) (hourlyService [addTax, keepLarge]) ∧
      (hourlyService [addTax, keepLarge]).delete behindFirst = .ok (hourlyService [addTax]) := by
  have hadd : (hourlyService [addTax]).add behindFirst keepLarge =
      .ok (hourlyService [addTax, keepLarge]) := rfl
  obtain ⟨-, hadded, -⟩ :=
    edits_exact_and_invertible _ holdsTransforms_hourlyService behindFirst keepLarge
  obtain ⟨hinserts, -, hdelete⟩ := hadded _ hadd
  exact ⟨holdsTransforms_hourlyService, hadd, hinserts, hdelete⟩

end Service

end FlowSpec
