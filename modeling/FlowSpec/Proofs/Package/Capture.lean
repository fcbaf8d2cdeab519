import FlowSpec.Proofs.Package.Merge
import FlowSpec.Proofs.Scope.Settling
import FlowSpec.Proofs.Scope.Tree

/-!
What the references inside imported types stand for after a merge. A reference is a plain name; it
stands for the type of that name, else for the type of the name with underscores. Merging compares
and stores types under their own names, so a spelling that the exporter leaves free may be taken by
a type of the importer. Such a reference is captured, and every other reference keeps its meaning.
-/

set_option autoImplicit false

namespace FlowSpec

namespace Scope

variable {scope exporter importer : Scope} {name : String} {target entry : NamedType}

/-- The declaration that a name stands for: its name and its definition. -/
def definition? (scope : Scope) (name : String) : Option (String × Shape) :=
  (scope.lookup? name).map fun type ↦ (type.name, type.shape)

/-- The importer has a type under a spelling of the name that comes before all spellings under which
the exporter has one. -/
def Captures (importer exporter : Scope) (name : String) : Prop :=
  name ∉ exporter.types.map NamedType.name ∧ (name ∈ importer.types.map NamedType.name ∨
    Text.replaceChar '-' '_' name ∈ importer.types.map NamedType.name ∧
      Text.replaceChar '-' '_' name ∉ exporter.types.map NamedType.name)

/-- The names that decide what a name stands for: the name itself, and the name of the value if it
stands for a keyed state that leaves its value open. -/
def trail (scope : Scope) (name : String) : List String :=
  match scope.shape? name with
  | some (.keyedState { value := .unresolved value, .. }) => [name, value]
  | _ => [name]

theorem self_mem_trail (scope : Scope) (name : String) : name ∈ scope.trail name := by
  unfold trail
  split <;> exact List.mem_cons_self

theorem mem_trail_of_open {key value : String} (hlookup : scope.lookup? name = some target)
    (hopen : target.shape = .keyedState { key, value := .unresolved value }) :
    value ∈ scope.trail name := by
  have hshape : scope.shape? name = some (.keyedState { key, value := .unresolved value }) := by
    rw [shape?, hlookup, Option.map_some, hopen]
  rw [trail, hshape]
  exact List.mem_cons_of_mem _ (List.mem_singleton_self value)

/-- Apart from the name itself, only an open value is on its trail. -/
theorem open_of_mem_trail {other : String} (h : other ∈ scope.trail name) (hne : other ≠ name) :
    ∃ key target, scope.lookup? name = some target ∧
      target.shape = .keyedState { key, value := .unresolved other } := by
  unfold trail at h
  split at h
  · rename_i key value hshape
    obtain ⟨target, htarget, hopen⟩ := Option.map_eq_some_iff.mp hshape
    rcases List.mem_cons.mp h with h | h
    · exact absurd h hne
    · rw [List.mem_singleton.mp h]
      exact ⟨key, target, htarget, hopen⟩
  · exact absurd (List.mem_singleton.mp h) hne

/-! ### Captured names -/

theorem lookup?_eq_none_of_not_captures (h : ¬ importer.Captures exporter name)
    (hnone : exporter.lookup? name = none) : importer.lookup? name = none := by
  obtain ⟨hexact, hspelling⟩ := lookupType_eq_none_iff.mp hnone
  refine lookupType_eq_none_iff.mpr ⟨fun hmem ↦ ?_, fun hmem ↦ ?_⟩
  · exact h ⟨hexact, Or.inl hmem⟩
  · exact h ⟨hexact, Or.inr ⟨hmem, hspelling⟩⟩

/-- A name that is not captured leads to the type that the importer has under the exporter's
name. -/
theorem lookup?_eq_of_not_captures (hexporter : exporter.Sealed) (himporter : importer.Sealed)
    (h : ¬ importer.Captures exporter name) (htarget : exporter.lookup? name = some target)
    (hentry : entry ∈ importer.types) (hname : entry.name = target.name) :
    importer.lookup? name = some entry := by
  obtain ⟨-, hcases⟩ := (lookupType_eq_some_iff hexporter.nodup).mp htarget
  refine (lookupType_eq_some_iff himporter.nodup).mpr ⟨hentry, ?_⟩
  rw [hname]
  refine hcases.imp_right fun ⟨hexact, hspelling⟩ ↦ ⟨fun hmem ↦ ?_, hspelling⟩
  exact h ⟨hexact, Or.inl hmem⟩

/-- A captured name leads to a type that the exporter does not have. -/
theorem exists_stranger_of_captures (himporter : importer.Sealed)
    (h : importer.Captures exporter name) :
    ∃ stranger, importer.lookup? name = some stranger ∧
      stranger.name ∉ exporter.types.map NamedType.name := by
  obtain ⟨hexact, hcases⟩ := h
  by_cases hmem : name ∈ importer.types.map NamedType.name
  · obtain ⟨stranger, hstranger, rfl⟩ := List.mem_map.mp hmem
    exact ⟨stranger, (lookupType_eq_some_iff himporter.nodup).mpr ⟨hstranger, Or.inl rfl⟩, hexact⟩
  · obtain ⟨hspelling, hfree⟩ := hcases.resolve_left hmem
    obtain ⟨stranger, hstranger, hname⟩ := List.mem_map.mp hspelling
    rw [← hname] at hfree
    exact ⟨stranger, (lookupType_eq_some_iff himporter.nodup).mpr ⟨hstranger, Or.inr ⟨hmem, hname⟩⟩,
      hfree⟩

theorem not_captures_of_definition? (hexporter : exporter.Sealed) (himporter : importer.Sealed)
    (h : importer.definition? name = exporter.definition? name) :
    ¬ importer.Captures exporter name := by
  intro hcaptures
  obtain ⟨stranger, hstranger, hfree⟩ := exists_stranger_of_captures himporter hcaptures
  rw [definition?, hstranger, Option.map_some, eq_comm, definition?, Option.map_eq_some_iff] at h
  obtain ⟨target, htarget, hsame⟩ := h
  have hmem := ((lookupType_eq_some_iff hexporter.nodup).mp htarget).1
  exact hfree ((Prod.mk.inj hsame).1 ▸ List.mem_map_of_mem hmem)

/-! ### Meaning -/

/-- Where nothing on its trail is captured, a name that the importer settles anew is settled as it
was. -/
theorem shape_eq_of_not_captures (hexporter : exporter.Sealed)
    (h : ∀ other ∈ exporter.trail name, ¬ importer.Captures exporter other)
    (htarget : exporter.lookup? name = some target)
    (hentry : Declarations.settle { types := importer.types }
      { target with origin := entry.origin } = .ok entry) : entry.shape = target.shape := by
  rcases Declarations.settle_eq_ok_iff.mp hentry with ⟨-, hsame⟩ |
    ⟨state, typed, hstate, htyped, hsame⟩
  · rw [hsame]
  · replace hstate : target.shape = .keyedState state := hstate
    rw [hsame, hstate]
    rcases TypedState.resolve_eq_ok_iff.mp htyped with ⟨rfl, -⟩ |
      ⟨value, shape, _, hopen, hshape, -, -⟩
    · rfl
    · -- the exporter left the value open, so its name stands for nothing in the importer either
      have hstate' :
          target.shape = .keyedState { key := state.key, value := .unresolved value } := by
        rw [hstate, ← show state.value = .unresolved value from hopen]
      have hmem := ((lookupType_eq_some_iff hexporter.nodup).mp htarget).1
      obtain ⟨hnone, hname⟩ := hexporter.lookup?_of_open hmem hstate'
      have hfree := h value (mem_trail_of_open htarget hstate')
      have hvalue := valueShape_eq_none_iff.mpr ⟨lookup?_eq_none_of_not_captures hfree hnone, hname⟩
      rw [show TypedState.valueShape (Declarations.shape? { types := importer.types }) value = none
        from hvalue] at hshape
      cases hshape

/-- A name stands for one declaration on both sides exactly if nothing on its trail is captured,
provided that the importer has taken in what the name stands for. -/
theorem definition?_eq_iff (hexporter : exporter.Sealed) (himporter : importer.Sealed)
    (hkept : ∀ target, exporter.lookup? name = some target → ∃ entry ∈ importer.types,
      Declarations.settle { types := importer.types }
        { target with origin := entry.origin } = .ok entry) :
    importer.definition? name = exporter.definition? name ↔
      ∀ other ∈ exporter.trail name, ¬ importer.Captures exporter other := by
  constructor
  · intro h other hother
    by_cases heq : other = name
    · rw [heq]
      exact not_captures_of_definition? hexporter himporter h
    · obtain ⟨key, target, htarget, hopen⟩ := open_of_mem_trail hother heq
      rw [definition?, definition?, htarget, Option.map_some, Option.map_eq_some_iff] at h
      obtain ⟨entry, hentry, hsame⟩ := h
      intro hcaptures
      -- the importer has sealed the same open value, so it has no type of that name
      obtain ⟨stranger, hstranger, -⟩ := exists_stranger_of_captures himporter hcaptures
      have hmem := ((lookupType_eq_some_iff himporter.nodup).mp hentry).1
      rw [(himporter.lookup?_of_open hmem ((Prod.mk.inj hsame).2.trans hopen)).1] at hstranger
      cases hstranger
  · intro h
    have hname := h name (self_mem_trail exporter name)
    cases htarget : exporter.lookup? name with
    | none => rw [definition?, definition?, htarget, lookup?_eq_none_of_not_captures hname htarget]
    | some target =>
      obtain ⟨entry, hmem, hsettle⟩ := hkept target htarget
      have hsame : entry.name = target.name := (Declarations.settled_of_settle hsettle).name
      rw [definition?, definition?, htarget,
        lookup?_eq_of_not_captures hexporter himporter hname htarget hmem hsame, Option.map_some,
        Option.map_some, hsame, shape_eq_of_not_captures hexporter h htarget hsettle]

end Scope

namespace Package

theorem sealed_of_scope {package : Package} {scope : Scope} (h : package.scope = .ok scope) :
    scope.Sealed :=
  ⟨_, (Declarations.Tidy.empty.insertAll _).insertAll _, h⟩

/-- After a merge, a reference inside an imported type stands for the declaration that it stands for
in the exporter, with the same definition, exactly if neither it nor the open value behind it is
captured by a type of the importer. The types that are returned are sealed: sealing them again
changes nothing. -/
theorem definition?_of_reference_iff {types results : List NamedType}
    {states settled : List TypedState} {imports : List Import} {packages : List Package}
    {self : Import} {source : Package} {scope : Scope} {type : NamedType} {reference : String}
    (h : mergeTypesAndStates types states imports packages = .ok (results, settled))
    (hself : self ∈ imports) (hsource : find? self.package packages = some source)
    (hscope : source.scope = .ok scope)
    (htype : type ∈ (importedNames source self).flatMap scope.tree)
    (hreference : reference ∈ type.shape.references) :
    Scope.ofTypes results = .ok { types := results } ∧
      (Scope.definition? { types := results } reference = scope.definition? reference ↔
        ∀ name ∈ scope.trail reference, ¬ Scope.Captures { types := results } scope name) := by
  obtain ⟨merging, result, rfl, hholds, hfinished⟩ := exists_merging h
  have htidy := hholds.grown.tidy
  have hexporter := sealed_of_scope hscope
  refine ⟨htidy.ofTypes_of_toScope hfinished.seals,
    Scope.definition?_eq_iff hexporter ⟨_, htidy, hfinished.seals⟩ fun target htarget ↦ ?_⟩
  -- what the reference stands for is in the same tree, so it was offered too
  obtain ⟨name, hname, htree⟩ := List.mem_flatMap.mp htype
  have hoffered : target ∈ imports.flatMap (offeredTypes packages) := by
    refine List.mem_flatMap.mpr ⟨self, hself, ?_⟩
    simp only [offeredTypes, hsource, hscope]
    exact List.mem_flatMap.mpr
      ⟨name, hname, Scope.mem_tree_of_reference hexporter.nodup htree hreference htarget⟩
  have hforeign := hexporter.foreign ((lookupType_eq_some_iff hexporter.nodup).mp htarget).1
  exact exists_result_of_offered hholds.grown hfinished.seals hoffered hforeign

/-- The scope of the orders: the state is a type as well. -/
def ordersScope : Scope :=
  { types :=
      [{ name := "count", shape := .primitive .u32 },
        { name := "order", shape := .object [{ name := "id", type := "order-id" }] },
        { name := "order-id", shape := .primitive .string },
        { name := "totals", shape := .keyedState { key := "order-id", value := .u32 } }] }

theorem scope_ordersPackage : ordersPackage.scope = .ok ordersScope := by
  cbv

/-- The import of the orders keeps what the identifier of an order is. -/
theorem definition?_of_reference_iff_orders :
    mergeTypesAndStates localOrderTypes [] [ordersImport] [ordersPackage] =
        .ok (mergedOrderTypes, mergedOrderStates) ∧
      ordersPackage.scope = .ok ordersScope ∧
      ordersScope.definition? "order-id" = some ("order-id", .primitive .string) ∧
      Scope.definition? { types := mergedOrderTypes } "order-id" =
        ordersScope.definition? "order-id" := by
  have htype : { name := "order", shape := .object [{ name := "id", type := "order-id" }] } ∈
      (importedNames ordersPackage ordersImport).flatMap ordersScope.tree := by
    refine List.mem_flatMap.mpr ⟨"order", by simp [importedNames, ordersImport], ?_⟩
    simp [ordersScope, Scope.mem_tree_iff, Scope.collect, Scope.collectAll, Scope.size,
      Scope.lookup?, lookupType, Shape.references]
  have hreference : "order-id" ∈
      Shape.references (.object [{ name := "id", type := "order-id" }]) := by
    simp [Shape.references]
  have hiff := (definition?_of_reference_iff mergeTypesAndStates_orders (List.mem_singleton_self _)
    (by simp [find?, ordersImport]) scope_ordersPackage htype hreference).2
  refine ⟨mergeTypesAndStates_orders, scope_ordersPackage, rfl, hiff.mpr ?_⟩
  simp [Scope.trail, Scope.shape?, Scope.lookup?, lookupType, ordersScope, Scope.Captures]

/-! ### A reference that is captured -/

/-- The tag of an order has a type that is written with a hyphen and declared with an underscore. -/
def tagsPackage : Package :=
  { apiVersion := "0.6.0"
    header := { owner := "shop", name := "orders", version := "1.0.0" }
    types :=
      [{ name := "order", shape := .object [{ name := "tag", type := "price-tag" }] },
        { name := "price_tag", shape := .primitive .string }] }

def tagsImport : Import := { package := tagsPackage.header, types := ["order"] }

/-- Takes the spelling that the package leaves free. -/
def localTagTypes : List NamedType := [{ name := "price-tag", shape := .primitive .u32 }]

def mergedTagTypes : List NamedType :=
  [{ name := "order", shape := .object [{ name := "tag", type := "price-tag" }],
     origin := .imported },
    { name := "price-tag", shape := .primitive .u32 },
    { name := "price_tag", shape := .primitive .string, origin := .imported }]

/-- The merge succeeds, and the tag of an imported order is no longer a text but a number. -/
theorem merge_captures_reference :
    mergeTypesAndStates localTagTypes [] [tagsImport] [tagsPackage] = .ok (mergedTagTypes, []) ∧
      tagsPackage.scope = .ok { types := tagsPackage.types } ∧
      tagsPackage.types.head? =
        some { name := "order", shape := .object [{ name := "tag", type := "price-tag" }] } ∧
      Scope.tree { types := tagsPackage.types } "order" = tagsPackage.types ∧
      Scope.shape? { types := tagsPackage.types } "price-tag" = some (.primitive .string) ∧
      Scope.shape? { types := mergedTagTypes } "price-tag" = some (.primitive .u32) := by
  refine ⟨?_, ?_, rfl, ?_, rfl, rfl⟩
  · simp [localTagTypes, tagsImport, tagsPackage, mergedTagTypes, mergeTypesAndStates,
      Merging.importFrom, find?, Merging.addTrees, insertTree, Merging.finish, Package.scope,
      Scope.tree, Scope.collect,
      Scope.collectAll, Scope.size, Scope.lookup?, Shape.references, lookupType, Text.replaceChar,
      Declarations.insertAll, Declarations.insert, Declarations.replaced?, Declarations.declared?,
      Declarations.toScope, Declarations.settle, Primitive.nativeNames, Text.sortByName,
      List.mergeSort, List.forM, bind, Except.bind, pure, Except.pure, Except.mapError]
  · cbv
  · cbv

end Package

end FlowSpec
