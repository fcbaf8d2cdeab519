import FlowSpec.Proofs.Package.Capture
import FlowSpec.Proofs.Package.Idempotence

/-!
What becomes of the names that imports list. A merge that succeeds has found the package of
every import and all states that are listed, and returns them. Types are taken over with the trees
of their names, and the tree of a name that the package does not have is empty. So a listed type is
found after the merge if its package has it, and else only if the importer or an import provides
that name for other reasons (`contains_listed_iff`).
-/

set_option autoImplicit false

namespace FlowSpec

/-- One of these types is found under a name: it has this name or the one with underscores, and is
not primitive. -/
def Provides (types : List NamedType) (name : String) : Prop :=
  ∃ type ∈ types, type.name ∉ Primitive.nativeNames ∧
    (type.name = name ∨ type.name = Text.replaceChar '-' '_' name)

/-- Names that stand for types of one list stand for types of another that has types of the same
names. -/
theorem Provides.imp {first second : List NamedType} {name : String} (h : Provides first name)
    (hnames : ∀ type ∈ first, type.name ∉ Primitive.nativeNames →
      type.name ∈ second.map NamedType.name) :
    Provides second name := by
  obtain ⟨type, htype, hforeign, hname⟩ := h
  obtain ⟨other, hother, hsame⟩ := List.mem_map.mp (hnames type htype hforeign)
  rw [← hsame] at hforeign hname
  exact ⟨other, hother, hforeign, hname⟩

theorem Scope.Sealed.contains_iff {scope : Scope} (h : scope.Sealed) {name : String} :
    scope.contains name ↔ name ∈ Primitive.nativeNames ∨ Provides scope.types name := by
  rw [Scope.contains, Bool.or_eq_true, List.contains_iff_mem, Option.isSome_iff_ne_none,
    Scope.lookup?, ne_eq, lookupType_eq_none_iff, not_and_or, not_not, not_not]
  refine or_congr_right ⟨?_, ?_⟩
  · rintro (hname | hname)
    all_goals
      obtain ⟨type, htype, hname⟩ := List.mem_map.mp hname
      exact ⟨type, htype, h.foreign htype, by simp [hname]⟩
  · rintro ⟨type, htype, -, hname⟩
    rcases hname with hname | hname
    · exact Or.inl (hname ▸ List.mem_map_of_mem htype)
    · exact Or.inr (hname ▸ List.mem_map_of_mem htype)

namespace Package

/-! ### Names that are returned -/

section Sealed

variable {after : Declarations} {types offered : List NamedType} {type : NamedType} {scope : Scope}
  {name : String} (hgrown : Grown (({} : Declarations).insertAll types) offered after)
  (hscope : after.toScope = .ok scope)

include hgrown hscope

theorem mem_names_of_declared {other : NamedType} (h : after.declared? name = some other) :
    name ∈ scope.types.map NamedType.name := by
  obtain rfl := (hgrown.tidy.declared?_eq_some_iff.mp h).2
  obtain ⟨result, hresult, -, hname, -⟩ := exists_result_of_declared hgrown.tidy hscope h
  exact List.mem_map.mpr ⟨result, hresult, hname⟩

theorem mem_names_of_mem_append (htype : type ∈ types ++ offered)
    (hforeign : type.name ∉ Primitive.nativeNames) :
    type.name ∈ scope.types.map NamedType.name := by
  rcases List.mem_append.mp htype with hlocal | hoffered
  · obtain ⟨other, -, -, hdeclared⟩ := Declarations.exists_declared?_insertAll {} hlocal hforeign
    exact mem_names_of_declared hgrown hscope (hgrown.keeps _ _ hdeclared)
  · obtain ⟨other, hdeclared, -⟩ := hgrown.covers type hoffered hforeign
    exact mem_names_of_declared hgrown hscope hdeclared

/-- Types are found under the names that the local and the offered ones provide. -/
theorem provides_types_iff : Provides scope.types name ↔ Provides (types ++ offered) name := by
  refine ⟨fun h ↦ h.imp fun result hresult _ ↦ ?_, fun h ↦ h.imp fun type htype hforeign ↦ ?_⟩
  · obtain ⟨type, hdeclared, -⟩ := exists_declared_of_result hgrown hscope hresult
    rw [List.map_append, List.mem_append]
    exact (local_or_imported hgrown hdeclared).imp id And.right
  · exact mem_names_of_mem_append hgrown hscope htype hforeign

theorem contains_iff_provides : scope.contains name ↔
    name ∈ Primitive.nativeNames ∨ Provides (types ++ offered) name := by
  have hsealed : scope.Sealed := ⟨after, hgrown.tidy, hscope⟩
  rw [hsealed.contains_iff, provides_types_iff hgrown hscope]

end Sealed

/-! ### Names that are listed -/

variable {packages : List Package} {source : Package} {self : Import} {exported : Scope}

/-- An import offers the types that its package has under the names in its list. -/
theorem provides_of_contains {name : String} (hsource : find? self.package packages = some source)
    (hscope : source.scope = .ok exported) (hname : name ∈ self.types)
    (h : exported.contains name) :
    name ∈ Primitive.nativeNames ∨ Provides (offeredTypes packages self) name := by
  have hsealed := sealed_of_scope hscope
  rw [Scope.contains, Bool.or_eq_true, List.contains_iff_mem] at h
  refine h.imp_right fun hfound ↦ ?_
  obtain ⟨type, htype⟩ := Option.isSome_iff_exists.mp hfound
  obtain ⟨hmem, hspelled⟩ := (lookupType_eq_some_iff hsealed.nodup).mp htype
  refine ⟨type, ?_, hsealed.foreign hmem, hspelled.imp id And.right⟩
  simp only [offeredTypes, hsource, hscope]
  have htree : type ∈ exported.tree name := Scope.mem_tree_iff.mpr
    ((Scope.searched_tree hsealed.nodup name).reaches name (List.mem_singleton_self name) type
      htype)
  exact List.mem_flatMap.mpr ⟨name, List.mem_append_left _ hname, htree⟩

/-- After a merge, a type that an import lists is found exactly if its package has it, or if the
importer or one of the imports provides its name. A state that an import lists is returned, settled
among the types, which are sealed. -/
theorem contains_listed_iff {types results : List NamedType} {states settled : List TypedState}
    {imports : List Import}
    (h : mergeTypesAndStates types states imports packages = .ok (results, settled)) :
    Scope.ofTypes results = .ok { types := results } ∧ ∀ self ∈ imports, ∃ source exported,
      find? self.package packages = some source ∧ source.scope = .ok exported ∧
      (∀ name ∈ self.types, Scope.contains { types := results } name ↔
        exported.contains name ∨ Provides (types ++ imports.flatMap (offeredTypes packages)) name) ∧
      ∀ name ∈ self.states, ∃ state result, source.state? name = some state ∧ result ∈ settled ∧
        result.name = name ∧ state.resolve (Scope.shape? { types := results }) = .ok result := by
  have havailable := available_of_mergeTypesAndStates h
  obtain ⟨merging, scope, rfl, hholds, hfinished⟩ := exists_merging h
  have htidy := hholds.grown.tidy
  refine ⟨htidy.ofTypes_of_toScope hfinished.seals, fun self hself ↦ ?_⟩
  obtain ⟨source, exported, hsource, hscope, hstates⟩ := havailable self hself
  refine ⟨source, exported, hsource, hscope, fun name hname ↦ ?_, fun name hname ↦ ?_⟩
  · refine (contains_iff_provides hholds.grown hfinished.seals).trans ⟨Or.imp_left fun hnative ↦ ?_,
      fun hcases ↦ ?_⟩
    · exact (sealed_of_scope hscope).contains_iff.mpr (Or.inl hnative)
    · refine hcases.elim (fun hcontains ↦ ?_) Or.inr
      refine (provides_of_contains hsource hscope hname hcontains).imp_right fun hprovides ↦ ?_
      refine hprovides.imp fun type htype _ ↦ List.mem_map_of_mem (List.mem_append_right _ ?_)
      exact List.mem_flatMap.mpr ⟨self, hself, htype⟩
  · obtain ⟨state, hstate⟩ := Option.isSome_iff_exists.mp (hstates name hname)
    have hoffered : state ∈ states ++ imports.flatMap (offeredStates packages) := by
      refine List.mem_append_right _ (List.mem_flatMap.mpr ⟨self, hself, ?_⟩)
      simp only [offeredStates, hsource]
      exact List.mem_filterMap.mpr ⟨name, hname, hstate⟩
    obtain ⟨result, hresult, hresolve⟩ := hfinished.exists_result hholds hoffered
    have hnamed : state.name = name := by simpa using List.find?_some hstate
    exact ⟨state, result, hstate, hresult, (TypedState.name_of_resolve hresolve).trans hnamed,
      hresolve⟩

theorem contains_listed_iff_orders :
    mergeTypesAndStates localOrderTypes [] [ordersImport] [ordersPackage] =
        .ok (mergedOrderTypes, mergedOrderStates) ∧
      Scope.contains { types := mergedOrderTypes } "order" ∧
      ∃ state result, ordersPackage.state? "totals" = some state ∧ result ∈ mergedOrderStates ∧
        result.name = "totals" ∧ state.resolve (Scope.shape? { types := mergedOrderTypes }) =
          .ok result := by
  obtain ⟨source, exported, hsource, hscope, htypes, hstates⟩ :=
    (contains_listed_iff mergeTypesAndStates_orders).2 ordersImport (List.mem_singleton_self _)
  obtain rfl : ordersPackage = source := by simpa [find?, ordersImport] using hsource
  obtain rfl : ordersScope = exported := Except.ok.inj (scope_ordersPackage.symm.trans hscope)
  have hlisted : "order" ∈ ordersImport.types := List.mem_singleton_self _
  exact ⟨mergeTypesAndStates_orders, (htypes "order" hlisted).mpr (Or.inl rfl),
    hstates "totals" (List.mem_singleton_self _)⟩

/-- Lists something that the package of orders does not have. -/
def invoiceImport : Import := { package := ordersPackage.header, types := ["invoice"] }

/-- A type that its package does not have is passed over without a word. A state that it does not
have is an error. -/
theorem merge_passes_over_invoice :
    mergeTypesAndStates [] [] [invoiceImport] [ordersPackage] = .ok ([], []) ∧
      Scope.ofTypes [] = .ok { types := [] } ∧ Scope.contains { types := [] } "invoice" = false ∧
      mergeTypesAndStates [] [] [{ invoiceImport with types := [], states := ["invoice"] }]
        [ordersPackage] = .error (.unknownState "invoice" "orders") := by
  have hfound : find? ordersPackage.header [ordersPackage] = some ordersPackage := by simp [find?]
  have htree : ordersScope.tree "invoice" = [] := by
    simp [Scope.tree, Scope.collect, Scope.size, Scope.lookup?, lookupType, ordersScope,
      Text.replaceChar, Text.sortByName]
  have hstate : ordersPackage.state? "invoice" = none := by simp [Package.state?, ordersPackage]
  have hname : ordersPackage.header.name = "orders" := rfl
  refine ⟨?_, ?_, rfl, ?_⟩
  · simp [mergeTypesAndStates, Merging.importFrom, invoiceImport, hfound, scope_ordersPackage,
      Merging.addTrees, htree, insertTree, Merging.finish, Declarations.insertAll,
      Declarations.toScope, Text.sortByName, List.forM, bind,
      Except.bind, pure, Except.pure, Except.mapError]
  · simp [Scope.ofTypes, Declarations.insertAll, Declarations.toScope, Text.sortByName, bind,
      Except.bind, pure, Except.pure]
  · simp [mergeTypesAndStates, Merging.importFrom, invoiceImport, hfound, scope_ordersPackage,
      Merging.addTrees, Merging.importState, hstate, hname, bind, Except.bind, pure, Except.pure]

end Package

end FlowSpec
