import FlowSpec.Inference
import FlowSpec.Proofs.Text.Splitting
import Mathlib.Data.List.Nodup

/-!
Where the steps of a service stand. A service is laid out in segments: steps that stand alone, each
with a position of its own, and blocks of transforms, whose members are counted from zero behind the
position of the block. A position that is counted ends in a bracket and tells the block and the
number (`numbered_eq_iff`). The segments of a service have different positions, and so have all its
steps (`Service.nodup_positions`). The layout holds the operations that the service lists, in their
order, unless the service has both a window and a partition (`Service.operations_layout`).
-/

set_option autoImplicit false

namespace FlowSpec

/-! ### Counted positions -/

/-- The position of a member of a block. -/
def numbered (block : String) (index : Nat) : String := block ++ "[" ++ toString index ++ "]"

theorem toList_numbered (block : String) (index : Nat) :
    (numbered block index).toList = block.toList ++ '[' :: Nat.toDigits 10 index ++ [']'] := by
  simp [numbered]

theorem bracket_notMem_toDigits (index : Nat) : '[' ∉ Nat.toDigits 10 index := by
  intro hmem
  exact absurd (Nat.isDigit_of_mem_toDigits (by decide) (by decide) hmem) (by decide)

theorem numbered_eq_iff {block other : String} {index number : Nat} :
    numbered block index = numbered other number ↔ block = other ∧ index = number := by
  constructor
  · intro h
    rw [← String.toList_inj, toList_numbered, toList_numbered, List.append_left_inj,
      Text.append_cons_eq_iff] at h
    -- an opening bracket that is left behind would stand among the digits
    rcases h with ⟨hblock, hdigits⟩ | ⟨middle, -, hdigits⟩ | ⟨middle, -, hdigits⟩
    · refine ⟨String.toList_inj.mp hblock, ?_⟩
      rw [← Nat.ofDigitChars_ten_toDigits (n := index), hdigits, Nat.ofDigitChars_ten_toDigits]
    · exact absurd (by simp [hdigits]) (bracket_notMem_toDigits number)
    · exact absurd (by simp [hdigits]) (bracket_notMem_toDigits index)
  · rintro ⟨rfl, rfl⟩
    rfl

theorem getLast?_numbered (block : String) (index : Nat) :
    (numbered block index).toList.getLast? = some ']' := by
  rw [toList_numbered, List.getLast?_concat]

/-! ### Segments -/

/-- A stretch of a service: a step that stands alone, or a block of transforms. -/
inductive Segment where
  | step (position : String) (operation : Operation)
  | block (position : String) (operations : List Operation)

namespace Segment

def position : Segment → String
  | step position _ => position
  | block position _ => position

def operations : Segment → List Operation
  | step _ operation => [operation]
  | block _ operations => operations

/-- The members of a block with their positions, counted from a number. -/
def counted (block : String) (index : Nat) (operations : List Operation) :
    List (String × Operation) :=
  (operations.zipIdx index).map fun member ↦ (numbered block member.2, member.1)

/-- The operations with their positions. -/
def entries : Segment → List (String × Operation)
  | step position operation => [(position, operation)]
  | block position operations => counted position 0 operations

theorem counted_cons (block : String) (index : Nat) (operation : Operation)
    (rest : List Operation) :
    counted block index (operation :: rest) =
      (numbered block index, operation) :: counted block (index + 1) rest := by
  simp [counted]

theorem map_snd_counted (block : String) (index : Nat) (operations : List Operation) :
    (counted block index operations).map Prod.snd = operations := by
  rw [counted, List.map_map]
  exact List.zipIdx_map_fst index operations

theorem map_snd_entries (segment : Segment) :
    segment.entries.map Prod.snd = segment.operations := by
  cases segment with
  | step position operation => rfl
  | block position operations => exact map_snd_counted position 0 operations

theorem flatMap_operations (segments : List Segment) :
    segments.flatMap operations = (segments.flatMap entries).map Prod.snd := by
  rw [List.map_flatMap]
  exact List.flatMap_congr fun segment _ ↦ segment.map_snd_entries.symm

theorem map_fst_counted (block : String) (index : Nat) (operations : List Operation) :
    (counted block index operations).map Prod.fst =
      (List.range' index operations.length).map (numbered block) := by
  rw [counted, List.map_map, ← List.zipIdx_map_snd index operations, List.map_map]
  rfl

theorem nodup_entries (segment : Segment) : (segment.entries.map Prod.fst).Nodup := by
  cases segment with
  | step position operation => exact List.nodup_singleton position
  | block position operations =>
    rw [entries, map_fst_counted]
    exact (List.nodup_range').map fun _ _ h ↦ (numbered_eq_iff.mp h).2

/-- A step that stands alone is not mistaken for a member of a block. -/
def Plain : Segment → Prop
  | step position _ => position.toList.getLast? ≠ some ']'
  | block _ _ => True

/-- What stands in a segment tells the position of the segment. -/
theorem position_eq {first second : Segment} (hfirst : first.Plain) (hsecond : second.Plain)
    {here : String} (hmem : here ∈ first.entries.map Prod.fst)
    (hmem' : here ∈ second.entries.map Prod.fst) :
    first.position = second.position := by
  have hends {block : String} {operations : List Operation}
      (hcounted : here ∈ (Segment.block block operations).entries.map Prod.fst) : ∃ index,
        here = numbered block index := by
    rw [entries, map_fst_counted, List.mem_map] at hcounted
    obtain ⟨index, -, hindex⟩ := hcounted
    exact ⟨index, hindex.symm⟩
  cases first with
  | step position operation =>
    obtain rfl := List.mem_singleton.mp hmem
    cases second with
    | step other operation' => exact List.mem_singleton.mp hmem'
    | block other operations =>
      obtain ⟨index, hindex⟩ := hends hmem'
      exact absurd (hindex ▸ getLast?_numbered other index) hfirst
  | block position operations =>
    obtain ⟨index, hindex⟩ := hends hmem
    cases second with
    | step other operation =>
      obtain rfl := List.mem_singleton.mp hmem'
      exact absurd (hindex ▸ getLast?_numbered position index) hsecond
    | block other operations' =>
      obtain ⟨number, hnumber⟩ := hends hmem'
      exact (numbered_eq_iff.mp (hindex.symm.trans hnumber)).1

/-- Segments at different positions have steps at different positions. -/
theorem nodup_flatMap_entries {segments : List Segment}
    (hplain : ∀ segment ∈ segments, segment.Plain) (hnodup : (segments.map position).Nodup) :
    ((segments.flatMap entries).map Prod.fst).Nodup := by
  rw [List.map_flatMap, List.nodup_flatMap]
  refine ⟨fun segment _ ↦ nodup_entries segment, ?_⟩
  refine (List.pairwise_map.mp hnodup).imp_of_mem fun hfirst hsecond hne ↦ ?_
  exact List.disjoint_left.mpr fun here hmem hmem' ↦
    hne (position_eq (hplain _ hfirst) (hplain _ hsecond) hmem hmem')

end Segment

/-! ### The layout of a service -/

open Segment (step block)

def Partition.layout (position : String) (partition : Partition) : List Segment :=
  step (position ++ ".assign-key") ⟨.assignKey, partition.assignKey⟩ ::
    block (position ++ ".transforms") partition.transforms ::
    (partition.updateState.map fun update ↦
      [step (position ++ ".update-state") ⟨.updateState, update⟩]).getD []

def Window.layout (window : Window) : List Segment :=
  step "window.assign-timestamp" ⟨.assignTimestamp, window.assignTimestamp⟩ ::
    block "window.transforms" window.transforms ::
    (window.partition.map (Partition.layout "window.partition")).getD [] ++
    (window.flush.map fun flush ↦ [step "window.flush" ⟨.aggregate, flush⟩]).getD []

/-- The window of a service, or else its partition. -/
def Service.stageLayout (service : Service) : List Segment :=
  match service.window, service.partition with
  | some window, _ => window.layout
  | none, some partition => partition.layout "partition"
  | none, none => []

/-- Sources or sinks are counted, and each has a block of transforms. -/
def Endpoint.segment (role : String) (endpoint : Endpoint) (index : Nat) : Segment :=
  block (numbered role index ++ ".transforms") endpoint.transforms

def endpointLayout (role : String) (endpoints : List Endpoint) : List Segment :=
  endpoints.zipIdx.map fun member ↦ member.1.segment role member.2

def Service.layout (service : Service) : List Segment :=
  endpointLayout "sources" service.sources ++
    (block "transforms" service.transforms :: service.stageLayout) ++
    endpointLayout "sinks" service.sinks

/-! ### Operations -/

theorem operations_endpointLayout (role : String) (endpoints : List Endpoint) :
    (endpointLayout role endpoints).flatMap Segment.operations =
      endpoints.flatMap Endpoint.transforms := by
  conv_rhs => rw [← List.zipIdx_map_fst 0 endpoints, List.flatMap_map]
  rw [endpointLayout, List.flatMap_map]
  rfl

theorem Partition.operations_layout (position : String) (partition : Partition) :
    (partition.layout position).flatMap Segment.operations = partition.operations := by
  cases hupdate : partition.updateState <;>
    simp [Partition.layout, Partition.operations, Segment.operations, hupdate]

theorem Window.operations_layout (window : Window) :
    window.layout.flatMap Segment.operations = window.operations := by
  cases hpartition : window.partition <;> cases hflush : window.flush <;>
    simp [Window.layout, Window.operations, Segment.operations, Partition.operations_layout,
      hpartition, hflush]

/-- The layout of a service without a window or without a partition holds what the service lists. -/
theorem Service.operations_layout {service : Service}
    (hstage : service.window = none ∨ service.partition = none) :
    service.layout.flatMap Segment.operations = service.operations := by
  have hstages : service.stageLayout.flatMap Segment.operations =
      (service.window.map Window.operations).getD [] ++
        (service.partition.map Partition.operations).getD [] := by
    unfold Service.stageLayout
    cases hwindow : service.window <;> cases hpartition : service.partition <;>
      simp_all [Window.operations_layout, Partition.operations_layout]
  rw [Service.layout, List.flatMap_append, List.flatMap_append, List.flatMap_cons, hstages,
    operations_endpointLayout, operations_endpointLayout]
  simp [Service.operations, Segment.operations]

/-! ### Positions -/

def partitionPositions (position : String) : List String :=
  [position ++ ".assign-key", position ++ ".transforms", position ++ ".update-state"]

def windowPositions : List String :=
  ["window.assign-timestamp", "window.transforms"] ++ partitionPositions "window.partition" ++
    ["window.flush"]

/-- The positions that segments between the sources and the sinks can have. -/
def stagePositions : List String :=
  ["transforms"] ++ (windowPositions ++ partitionPositions "partition")

theorem Partition.positions_layout (position : String) (partition : Partition) :
    ((partition.layout position).map Segment.position).Sublist (partitionPositions position) := by
  cases hupdate : partition.updateState with
  | none => simp [Partition.layout, Segment.position, partitionPositions, hupdate]
  | some update => simp [Partition.layout, Segment.position, partitionPositions, hupdate]

theorem Window.positions_layout (window : Window) :
    (window.layout.map Segment.position).Sublist windowPositions := by
  have hpartition : (((window.partition.map (Partition.layout "window.partition")).getD []).map
      Segment.position).Sublist (partitionPositions "window.partition") := by
    cases window.partition with
    | none => exact List.nil_sublist _
    | some partition => exact Partition.positions_layout "window.partition" partition
  have hflush :
      (((window.flush.map fun flush ↦ [step "window.flush" ⟨.aggregate, flush⟩]).getD []).map
      Segment.position).Sublist ["window.flush"] := by
    cases window.flush with
    | none => exact List.nil_sublist _
    | some flush => exact List.Sublist.refl _
  rw [Window.layout, List.map_append]
  exact ((hpartition.cons_cons "window.transforms").cons_cons "window.assign-timestamp").append
    hflush

theorem Service.positions_stageLayout (service : Service) :
    ((block "transforms" service.transforms :: service.stageLayout).map Segment.position).Sublist
      stagePositions := by
  have hstage : (service.stageLayout.map Segment.position).Sublist
      (windowPositions ++ partitionPositions "partition") := by
    unfold Service.stageLayout
    cases service.window with
    | some window => exact (Window.positions_layout window).trans (List.sublist_append_left _ _)
    | none =>
      cases service.partition with
      | some partition =>
        exact (Partition.positions_layout "partition" partition).trans
          (List.sublist_append_right _ _)
      | none => exact List.nil_sublist _
  exact hstage.cons_cons "transforms"

theorem mem_positions_endpointLayout {role here : String} {endpoints : List Endpoint}
    (h : here ∈ (endpointLayout role endpoints).map Segment.position) :
    ∃ index, here = numbered role index ++ ".transforms" := by
  rw [endpointLayout, List.map_map, List.mem_map] at h
  obtain ⟨member, -, hhere⟩ := h
  exact ⟨member.2, hhere.symm⟩

theorem nodup_endpointLayout (role : String) (endpoints : List Endpoint) :
    ((endpointLayout role endpoints).map Segment.position).Nodup := by
  have hpositions : (endpointLayout role endpoints).map Segment.position =
      (List.range' 0 endpoints.length).map fun index ↦ numbered role index ++ ".transforms" := by
    rw [endpointLayout, List.map_map, ← List.zipIdx_map_snd 0 endpoints, List.map_map]
    rfl
  rw [hpositions]
  exact (List.nodup_range').map fun _ _ h ↦ (numbered_eq_iff.mp ((String.append_left_inj _).mp h)).2

/-- The blocks of sources and of sinks are not taken for those between them: their positions begin
otherwise. -/
theorem notMem_stagePositions {role : String} (hrole : role.toList.head? = some 's') (index : Nat) :
    numbered role index ++ ".transforms" ∉ stagePositions := by
  have hstage : ∀ here ∈ stagePositions, here.toList.head? ≠ some 's' := by decide
  intro hmem
  refine hstage _ hmem ?_
  rw [String.toList_append, toList_numbered, List.append_assoc, List.append_assoc,
    List.head?_append, hrole]
  rfl

theorem Service.nodup_segments (service : Service) :
    (service.layout.map Segment.position).Nodup := by
  have hstage := service.positions_stageLayout
  rw [Service.layout, List.map_append, List.map_append]
  refine ((nodup_endpointLayout _ _).append (hstage.nodup (by decide)) ?_).append
    (nodup_endpointLayout _ _) ?_
  · refine List.disjoint_left.mpr fun here hsource hmem ↦ ?_
    obtain ⟨index, rfl⟩ := mem_positions_endpointLayout hsource
    exact notMem_stagePositions (by decide) index (hstage.subset hmem)
  · refine List.disjoint_left.mpr fun here hmem hsink ↦ ?_
    obtain ⟨index, rfl⟩ := mem_positions_endpointLayout hsink
    rcases List.mem_append.mp hmem with hsource | hmem
    · obtain ⟨number, hnumber⟩ := mem_positions_endpointLayout hsource
      exact absurd (numbered_eq_iff.mp ((String.append_left_inj _).mp hnumber)).1 (by decide)
    · exact notMem_stagePositions (by decide) index (hstage.subset hmem)

/-- No step that stands alone has a position that ends in a bracket. -/
theorem Service.plain_of_mem_layout {service : Service} {segment : Segment}
    (h : segment ∈ service.layout) :
    segment.Plain := by
  cases segment with
  | block position operations => trivial
  | step position operation =>
    have hplain : ∀ here ∈ stagePositions, here.toList.getLast? ≠ some ']' := by decide
    have hends {role : String} {endpoints : List Endpoint} :
        step position operation ∉ endpointLayout role endpoints := by
      simp [endpointLayout, Endpoint.segment]
    rw [Service.layout, List.mem_append, List.mem_append, or_iff_left hends,
      or_iff_right hends] at h
    exact hplain _ (service.positions_stageLayout.subset (List.mem_map_of_mem h))

/-- No two steps of a service stand at the same position. -/
theorem Service.nodup_positions (service : Service) :
    ((service.layout.flatMap Segment.entries).map Prod.fst).Nodup :=
  Segment.nodup_flatMap_entries (fun _ ↦ Service.plain_of_mem_layout) service.nodup_segments

end FlowSpec
