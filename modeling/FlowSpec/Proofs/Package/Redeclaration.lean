import FlowSpec.Package.Function
import FlowSpec.Proofs.Package.Merge
import FlowSpec.Proofs.Package.Recursion
import FlowSpec.Proofs.Scope.Settling
import FlowSpec.Proofs.Scope.Tree

/-!
A package that declares anew what it imports. Types that the package and its dependency define alike
are no reason to refuse the import, with one exception: the dependency has been sealed, the package
has not. A keyed state whose value both leave open is open on one side and settled on the other, so
the two differ when they are compared.
-/

set_option autoImplicit false

namespace FlowSpec.Package

open Outcome Relation

variable {package dependency merged : Package} {imports : List Import}
  {order packages : List Package} {name : String} {types results : List NamedType}
  {states settled : List TypedState} {type : NamedType} {scope : Scope}

/-- What a package declares before it is sealed; a state comes before a type of its name. -/
def declarations (package : Package) : Declarations :=
  (({} : Declarations).insertAll package.types).insertAll (package.states.map TypedState.namedType)

theorem tidy_declarations (package : Package) : package.declarations.Tidy :=
  (Declarations.Tidy.empty.insertAll _).insertAll _

theorem exists_declared?_state (hname : name ∈ package.states.map TypedState.name)
    (hforeign : name ∉ Primitive.nativeNames) : ∃ state ∈ package.states, state.name = name ∧
      package.declarations.declared? name = some state.namedType := by
  obtain ⟨first, hfirst, rfl⟩ := List.mem_map.mp hname
  have hmem : first.namedType ∈ package.states.map TypedState.namedType :=
    List.mem_map_of_mem hfirst
  obtain ⟨other, hother, hsame, hdeclared⟩ := Declarations.exists_declared?_insertAll
    (({} : Declarations).insertAll package.types) hmem hforeign
  obtain ⟨state, hstate, rfl⟩ := List.mem_map.mp hother
  exact ⟨state, hstate, hsame, hdeclared⟩

theorem declared?_type (hname : name ∉ package.states.map TypedState.name) :
    package.declarations.declared? name =
      (({} : Declarations).insertAll package.types).declared? name := by
  refine Declarations.declared?_insertAll_of_notMem fun hmem ↦ hname ?_
  rwa [List.map_map] at hmem

/-! ### A single dependency -/

/-- A package that is alone among packages and in order imports nothing. -/
theorem Ordered.imports_eq_nil (h : Ordered [dependency] order) (hmem : dependency ∈ order) :
    dependency.imports = [] := by
  rw [List.eq_nil_iff_forall_not_mem]
  intro self hself
  obtain ⟨before, after, heq⟩ := List.append_of_mem hmem
  obtain ⟨imported, -, hfound⟩ := h.exists_before heq self hself
  have himported : imported = dependency := List.mem_singleton.mp (mem_of_byKey? hfound)
  exact h.not_transGen hmem (.single ⟨self, hself, himported ▸ hfound⟩)

theorem resolveRecursively_single (h : Ordered [dependency] order) (hmem : dependency ∈ order) :
    resolveRecursively [dependency] dependency =
      (merge dependency []).mapError (Error.merging dependency.header) := by
  rw [resolveRecursively_eq h hmem, h.imports_eq_nil hmem]
  rfl

theorem merge_of_mem_packages {resolution : Resolution}
    (h : resolve imports [dependency] = .ok resolution) (hmem : merged ∈ resolution.packages) :
    dependency.imports = [] ∧ merge dependency [] = .ok merged := by
  obtain ⟨order, hsort, -⟩ := bind_eq_ok_iff.mp h
  obtain ⟨other, hreachable, hmerged⟩ := (mem_packages_iff_of_resolve hsort h).mp hmem
  have hordered := ordered_of_sort hsort
  have hother := (mem_iff_reachable_of_sort hsort).mpr hreachable
  obtain rfl : other = dependency := List.mem_singleton.mp (hordered.indexed other hother).mem
  rw [resolveRecursively_single hordered hother] at hmerged
  exact ⟨hordered.imports_eq_nil hother, mapError_eq_ok_iff.mp hmerged⟩

theorem not_isTypeConflict_of_resolve {error : Error}
    (h : resolve imports [dependency] = .error error) :
    error.isTypeConflict = false := by
  rcases bind_eq_error_iff.mp h with hsort | ⟨order, hsort, -⟩
  · cases truthful_of_sort hsort <;> rfl
  · have hordered := ordered_of_sort hsort
    rw [resolve_eq_mapM hsort] at h
    rcases bind_eq_error_iff.mp h with h | ⟨resolved, -, h⟩
    · obtain ⟨other, hother, h⟩ := exists_of_mapM_eq_error h
      obtain rfl : other = dependency := List.mem_singleton.mp (hordered.indexed other hother).mem
      rw [resolveRecursively_single hordered hother] at h
      obtain ⟨cause, hcause, rfl⟩ := mapError_eq_error_iff.mp h
      -- the dependency imports nothing, so nothing is in its way
      rw [Error.isTypeConflict, ← Bool.not_eq_true]
      intro hconflict
      have hdisputed := disputed_of_merge hcause hconflict
      rw [hordered.imports_eq_nil hother] at hdisputed
      exact not_disputed_nil _ hdisputed
    · cases h

/-! ### What the dependency offers -/

/-- Without imports, merging only settles the types. -/
theorem exists_declared_of_mergeTypes
    (h : mergeTypesAndStates types states [] packages = .ok (results, settled))
    (htype : type ∈ results) : ∃ before,
      (({} : Declarations).insertAll types).declared? type.name = some before ∧
        before.shape.Narrows type.shape := by
  obtain ⟨merging, scope, rfl, hholds, hfinished⟩ := exists_merging h
  obtain ⟨before, hmem, hsettled⟩ := Declarations.exists_declared_of_mem hfinished.seals htype
  have hdeclared := hholds.grown.tidy.declared?_eq_some_iff.mpr ⟨hmem, hsettled.name.symm⟩
  refine ⟨before, ?_, Declarations.narrows_of_settle hsettled.settles⟩
  rcases hholds.grown.adds _ _ hdeclared with hstart | ⟨-, -, hname⟩
  · exact hstart
  · simp at hname

/-- States of one name are settled alike, and none is lost. -/
theorem exists_narrows_of_mergeStates {state result : TypedState}
    (h : mergeTypesAndStates types states [] packages = .ok (results, settled))
    (hstate : state ∈ states) (hresult : result ∈ settled) (hname : result.name = state.name) :
    (Shape.keyedState state.type).Narrows (.keyedState result.type) := by
  obtain ⟨merging, scope, rfl, hholds, hfinished⟩ := exists_merging h
  obtain ⟨other, hother, hresolve⟩ :=
    hfinished.exists_result hholds (List.mem_append_left _ hstate)
  have hnodup : (settled.map TypedState.name).Nodup := by
    rw [Merging.map_name_of_forall₂ hfinished.listed, hholds.names]
    exact nodup_eraseDups _
  have hsame : other.name = result.name := (TypedState.name_of_resolve hresolve).trans hname.symm
  rw [← List.inj_on_of_nodup_map hnodup hother hresult hsame]
  exact TypedState.narrows_of_resolve hresolve

theorem map_name_of_mergeStates
    (h : mergeTypesAndStates types states [] packages = .ok (results, settled)) :
    name ∈ settled.map TypedState.name ↔ name ∈ states.map TypedState.name := by
  obtain ⟨merging, scope, rfl, hholds, hfinished⟩ := exists_merging h
  rw [Merging.map_name_of_forall₂ hfinished.listed, hholds.names, List.mem_eraseDups]
  simp

/-- Each type of the merged dependency's scope is what the dependency declares, with its value
settled. -/
theorem exists_declared_of_merge (himports : dependency.imports = [])
    (hmerge : merge dependency [] = .ok merged) (hscope : merged.scope = .ok scope)
    (htype : type ∈ scope.types) : ∃ before,
      dependency.declarations.declared? type.name = some before ∧
      before.shape.Narrows type.shape := by
  obtain ⟨states, lookup, hmerged, hstates⟩ := exists_of_merge hmerge
  rw [himports] at hmerged
  obtain ⟨middle, hmiddle, hsettled⟩ := Declarations.exists_declared_of_mem hscope htype
  have hnarrows := Declarations.narrows_of_settle hsettled.settles
  have hdeclared :=
    (tidy_declarations merged).declared?_eq_some_iff.mpr ⟨hmiddle, hsettled.name.symm⟩
  have hforeign := (tidy_declarations merged).foreign_of_toScope hscope type htype
  have hnames (name : String) : name ∈ merged.states.map TypedState.name ↔
      name ∈ dependency.states.map TypedState.name := by
    rw [Merging.map_name_of_forall₂ hstates, map_name_of_mergeStates hmerged]
  by_cases hname : type.name ∈ merged.states.map TypedState.name
  · obtain ⟨last, hlast, hlastName, hlastDeclared⟩ := exists_declared?_state hname hforeign
    obtain ⟨first, hfirst, hfirstName, hfirstDeclared⟩ :=
      exists_declared?_state ((hnames type.name).mp hname) hforeign
    obtain ⟨state, hstate, hresolve⟩ := exists_left_of_forall₂ hstates hlast
    have hsame : state.name = first.name := by
      rw [← TypedState.name_of_resolve hresolve, hlastName, hfirstName]
    rw [hdeclared] at hlastDeclared
    cases hlastDeclared
    exact ⟨first.namedType, hfirstDeclared,
      (exists_narrows_of_mergeStates hmerged hfirst hstate hsame).trans
      ((TypedState.narrows_of_resolve hresolve).trans hnarrows)⟩
  · rw [declared?_type hname] at hdeclared
    obtain ⟨hmem, hsame⟩ := Declarations.mem_of_declared?_insertAll hdeclared
    obtain ⟨before, hbefore, hshape⟩ := exists_declared_of_mergeTypes hmerged hmem
    rw [hsame, ← declared?_type fun hmem ↦ hname ((hnames type.name).mpr hmem)] at hbefore
    exact ⟨before, hbefore, hshape.trans hnarrows⟩

/-! ### Redeclarations -/

/-- The types that the imports of a package bring along from a dependency, as they are in its
scope. -/
def importedTypes (package dependency : Package) : List NamedType :=
  match resolve package.imports [dependency] with
  | .ok resolution => package.imports.flatMap (offeredTypes resolution.packages)
  | .error _ => []

/-- A type of the package that has the name of an imported one is defined as the dependency defines
it. -/
def RedeclaresAlike (package dependency : Package) : Prop :=
  ∀ type ∈ package.types, type.name ∈ (importedTypes package dependency).map NamedType.name →
    (dependency.declarations.declared? type.name).map NamedType.shape = some type.shape

/-- A keyed state of the package, with a value that is open here and settled in the dependency. -/
def SettledAbroad (package dependency : Package) (type : NamedType) : Prop :=
  type ∈ package.types ∧ ∃ other ∈ importedTypes package dependency, other.name = type.name ∧
    ∃ key name value, type.shape = .keyedState { key, value := .unresolved name } ∧
      other.shape = .keyedState { key, value } ∧ value.isResolved

theorem importedTypes_eq {resolution : Resolution}
    (hresolve : resolve package.imports [dependency] = .ok resolution) :
    importedTypes package dependency =
      package.imports.flatMap (offeredTypes resolution.packages) := by
  rw [importedTypes, hresolve]

/-- All imported types are of the scope of the merged dependency. -/
theorem exists_scope_of_imported (htype : type ∈ importedTypes package dependency) : ∃ merged scope,
    dependency.imports = [] ∧ merge dependency [] = .ok merged ∧ merged.scope = .ok scope ∧
      type ∈ scope.types := by
  unfold importedTypes at htype
  split at htype
  · rename_i resolution hresolve
    obtain ⟨self, -, hoffered⟩ := List.mem_flatMap.mp htype
    unfold offeredTypes at hoffered
    split at hoffered
    · simp at hoffered
    · rename_i merged hfound
      split at hoffered
      · simp at hoffered
      · rename_i scope hscope
        obtain ⟨himports, hmerge⟩ :=
          merge_of_mem_packages hresolve (List.mem_of_find?_eq_some hfound)
        obtain ⟨name, -, htree⟩ := List.mem_flatMap.mp hoffered
        have hnodup := (tidy_declarations merged).nodup_of_toScope hscope
        exact ⟨merged, scope, himports, hmerge, hscope, Scope.mem_types_of_mem_tree hnodup htree⟩
  · simp at htype

theorem foreign_of_imported (htype : type ∈ importedTypes package dependency) :
    type.name ∉ Primitive.nativeNames := by
  obtain ⟨merged, scope, -, -, hscope, hmem⟩ := exists_scope_of_imported htype
  exact (tidy_declarations merged).foreign_of_toScope hscope type hmem

/-- Imported types of one name are the same. -/
theorem eq_of_imported {other : NamedType} (htype : type ∈ importedTypes package dependency)
    (hother : other ∈ importedTypes package dependency) (hname : other.name = type.name) :
    other = type := by
  obtain ⟨merged, scope, -, hmerge, hscope, hmem⟩ := exists_scope_of_imported htype
  obtain ⟨merged', scope', -, hmerge', hscope', hmem'⟩ := exists_scope_of_imported hother
  rw [hmerge] at hmerge'
  cases hmerge'
  rw [hscope] at hscope'
  cases hscope'
  exact List.inj_on_of_nodup_map ((tidy_declarations merged).nodup_of_toScope hscope)
    hmem' hmem hname

/-- An imported type narrows the type of its name that is declared alike. -/
theorem narrows_of_redeclaresAlike {other : NamedType} (h : RedeclaresAlike package dependency)
    (htype : type ∈ package.types) (hother : other ∈ importedTypes package dependency)
    (hname : type.name = other.name) : type.shape.Narrows other.shape := by
  obtain ⟨merged, scope, himports, hmerge, hscope, hmem⟩ := exists_scope_of_imported hother
  obtain ⟨before, hbefore, hnarrows⟩ := exists_declared_of_merge himports hmerge hscope hmem
  have halike := h type htype (hname ▸ List.mem_map_of_mem hother)
  rw [hname, hbefore, Option.map_some, Option.some.injEq] at halike
  rwa [← halike]

theorem exists_settledAbroad_of_conflict {error : Error} (h : RedeclaresAlike package dependency)
    (herror : resolvePackage package [dependency] = .error error)
    (hconflict : error.isTypeConflict) :
    ∃ type, SettledAbroad package dependency type := by
  rcases bind_eq_error_iff.mp herror with herror | ⟨resolution, hresolve, herror⟩
  · rw [not_isTypeConflict_of_resolve herror] at hconflict
    cases hconflict
  rcases bind_eq_error_iff.mp herror with herror | ⟨resolved, -, herror⟩
  · have hdisputed := disputed_of_merge herror hconflict
    rw [← importedTypes_eq hresolve] at hdisputed
    obtain ⟨other, hother, previous, hprevious, hshape⟩ := hdisputed
    rcases hprevious with hdeclared | ⟨hmem, hname⟩
    · obtain ⟨hmem, hname⟩ := Declarations.mem_of_declared?_insertAll hdeclared
      have hnarrows := narrows_of_redeclaresAlike h hmem hother hname
      exact ⟨previous, hmem, other, hother, hname.symm, hnarrows.exists_of_ne hshape⟩
    · exact absurd (congrArg NamedType.shape (eq_of_imported hother hmem hname)) hshape
  · cases herror

theorem resolvePackage_ne_ok_of_settledAbroad (h : RedeclaresAlike package dependency)
    (htype : SettledAbroad package dependency type) (result : Package × Resolution) :
    resolvePackage package [dependency] ≠ .ok result := by
  intro hresult
  obtain ⟨hmem, other, hother, hname, key, name, value, hopen, hsettled, hvalue⟩ := htype
  obtain ⟨resolution, hresolve, hresult⟩ := bind_eq_ok_iff.mp hresult
  obtain ⟨merged, hmerge, -⟩ := bind_eq_ok_iff.mp hresult
  obtain ⟨states, lookup, hmerge, -⟩ := exists_of_merge hmerge
  obtain ⟨merging, scope, -, hholds, -⟩ := exists_merging hmerge
  rw [← importedTypes_eq hresolve] at hholds
  have hforeign := foreign_of_imported hother
  -- the package's own type is kept, and what is kept has the shape of what was offered
  obtain ⟨own, hown, hownName, hdeclared⟩ :=
    Declarations.exists_declared?_insertAll {} hmem (hname ▸ hforeign)
  obtain ⟨kept, hkept, hshape⟩ := hholds.grown.covers other hother hforeign
  rw [hname, hholds.grown.keeps _ _ hdeclared] at hkept
  cases hkept
  have hfirst := h type hmem (hname ▸ List.mem_map_of_mem hother)
  have hsecond := h own hown (hownName ▸ hname ▸ List.mem_map_of_mem hother)
  rw [hownName, hfirst, Option.some.injEq, hshape, hopen, hsettled] at hsecond
  cases hsecond
  cases hvalue

/-- Where all redeclarations are alike, an import is in the way of a type only if it has settled the
value that the type leaves open; and where there is such a type, the package is refused. -/
theorem resolvePackage_of_redeclaresAlike (h : RedeclaresAlike package dependency) :
    (∀ error, resolvePackage package [dependency] = .error error → error.isTypeConflict →
      ∃ type, SettledAbroad package dependency type) ∧
      ((∃ type, SettledAbroad package dependency type) →
        ∀ result, resolvePackage package [dependency] ≠ .ok result) :=
  ⟨fun _ herror hconflict ↦ exists_settledAbroad_of_conflict h herror hconflict,
    fun ⟨_, htype⟩ ↦ resolvePackage_ne_ok_of_settledAbroad h htype⟩

/-! ### Counts that two packages declare -/

/-- A counter, and a keyed state that names it as its value. -/
def countTypes : List NamedType :=
  [{ name := "count", shape := .primitive .u32 },
    { name := "totals", shape := .keyedState { key := "string", value := .unresolved "count" } }]

def settledCountTypes : List NamedType :=
  [{ name := "count", shape := .primitive .u32 },
    { name := "totals", shape := .keyedState { key := "string", value := .u32 } }]

def countPackage : Package :=
  { apiVersion := "0.6.0"
    header := { owner := "shop", name := "base", version := "1.0.0" }
    types := countTypes }

def settledCountPackage : Package := { countPackage with types := settledCountTypes }

/-- Imports one of the types, and declares both of them in the same words. -/
def recountPackage (imported : String) : Package :=
  { apiVersion := "0.6.0"
    header := { owner := "shop", name := "top", version := "1.0.0" }
    imports := [{ package := countPackage.header, types := [imported] }]
    types := countTypes }

theorem resolve_countPackage (imported : String) :
    resolve (recountPackage imported).imports [countPackage] =
      .ok { imports := (recountPackage imported).imports, resolved := [settledCountPackage] } := by
  have hsort : sort (indexPackages [countPackage]) (recountPackage imported).imports =
      .ok [countPackage] := by
    cbv
  rw [resolve, hsort]
  change (resolveInOrder [countPackage] >>= _) = _
  cbv

theorem scope_settledCountPackage :
    settledCountPackage.scope = .ok { types := settledCountTypes } := by
  cbv

theorem importedTypes_recount (imported : String) :
    importedTypes (recountPackage imported) countPackage =
      Scope.tree { types := settledCountTypes } imported := by
  have hfound : find? countPackage.header [settledCountPackage] = some settledCountPackage := rfl
  rw [importedTypes_eq (resolve_countPackage imported)]
  simp [recountPackage, Resolution.packages, Text.sortByName, offeredTypes, hfound,
    scope_settledCountPackage, importedNames]

theorem redeclaresAlike_recount (imported : String) :
    RedeclaresAlike (recountPackage imported) countPackage := by
  intro type htype _
  have hforeign : type.name ∉ Primitive.nativeNames := by
    simp only [recountPackage, countTypes, List.mem_cons, List.not_mem_nil, or_false] at htype
    rcases htype with rfl | rfl <;> simp [Primitive.nativeNames]
  have hdeclared : countPackage.declarations.declared? type.name = some type :=
    (declared?_type List.not_mem_nil).trans
      (Declarations.declared?_insertAll_of_mem (by simp [countPackage, countTypes]) htype hforeign)
  rw [hdeclared]
  rfl

/-- The import of the counter alone is in nobody's way. -/
theorem resolvePackage_of_redeclaresAlike_count :
    RedeclaresAlike (recountPackage "count") countPackage ∧
      ∀ error, resolvePackage (recountPackage "count") [countPackage] = .error error →
        ¬ error.isTypeConflict := by
  refine ⟨redeclaresAlike_recount "count", fun error herror hconflict ↦ ?_⟩
  obtain ⟨type, -, other, hother, -, key, name, value, -, hshape, -⟩ :=
    (resolvePackage_of_redeclaresAlike (redeclaresAlike_recount "count")).1 error herror hconflict
  rw [importedTypes_recount] at hother
  simp [Scope.tree, Scope.collect, Scope.collectAll, Scope.size, Scope.lookup?, lookupType,
    settledCountTypes, Shape.references, Text.sortByName] at hother
  rw [hother] at hshape
  cases hshape

/-- The import of the keyed state is refused, although both packages declare it in the same
words. -/
theorem redeclared_totals_conflict :
    RedeclaresAlike (recountPackage "totals") countPackage ∧
      resolvePackage (recountPackage "totals") [countPackage] =
        .error (.typeConflict "totals" "base") := by
  refine ⟨redeclaresAlike_recount "totals", ?_⟩
  rw [resolvePackage, resolve_countPackage]
  cbv

end FlowSpec.Package
