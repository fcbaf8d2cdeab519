import FlowSpec.Package.Merge
import FlowSpec.Proofs.Scope.Settling

/-!
What merging makes of local and imported types and states. An import offers types, those in the
trees of the names that it lists and of what its states mention, and it offers states. Merging keeps
what is declared, adds what is new as imported, and succeeds only if all that is offered under a
name has the same definition. It refuses a type only if its name has another definition already,
which was there from the start or came with another import, so an error that tells of a conflict is
the sign of two definitions of one name.
-/

set_option autoImplicit false

namespace FlowSpec.Package

open Outcome

variable {package : Package} {packages : List Package} {imports : List Import} {name : String}
  {names : List String} {lookup : String → Option Shape} {error : Error}

/-! ### What imports offer -/

/-- The names whose trees an import takes from a package: types that it lists, and what its states
mention. -/
def importedNames (source : Package) (self : Import) : List String :=
  self.types ++ (self.states.filterMap source.state?).flatMap stateReferences

/-- The types that an import brings along, as they are in the scope of their package. -/
def offeredTypes (packages : List Package) (self : Import) : List NamedType :=
  match find? self.package packages with
  | none => []
  | some source =>
    match source.scope with
    | .error _ => []
    | .ok scope => (importedNames source self).flatMap scope.tree

/-- The states that an import lists, as their package has them. -/
def offeredStates (packages : List Package) (self : Import) : List TypedState :=
  match find? self.package packages with
  | none => []
  | some source => self.states.filterMap source.state?

/-! ### Declarations grow -/

/-- What taking in offered types makes of declarations. -/
structure Grown (before : Declarations) (offered : List NamedType) (after : Declarations) :
    Prop where
  tidy : after.Tidy
  keeps : ∀ name type, before.declared? name = some type → after.declared? name = some type
  adds : ∀ name type, after.declared? name = some type → before.declared? name = some type ∨
    before.declared? name = none ∧ type.origin = .imported ∧ name ∈ offered.map NamedType.name
  covers : ∀ type ∈ offered, type.name ∉ Primitive.nativeNames →
    ∃ result, after.declared? type.name = some result ∧ result.shape = type.shape

namespace Grown

variable {before middle after : Declarations} {first second : List NamedType} {type : NamedType}

theorem refl (h : before.Tidy) : Grown before [] before where
  tidy := h
  keeps := fun _ _ hdeclared ↦ hdeclared
  adds := fun _ _ hdeclared ↦ Or.inl hdeclared
  covers := by simp

theorem trans (h : Grown before first middle) (h' : Grown middle second after) :
    Grown before (first ++ second) after where
  tidy := h'.tidy
  keeps := fun name type hdeclared ↦ h'.keeps name type (h.keeps name type hdeclared)
  adds := by
    intro name type hdeclared
    rw [List.map_append, List.mem_append]
    rcases h'.adds name type hdeclared with hdeclared | ⟨hnew, horigin, hname⟩
    · rcases h.adds name type hdeclared with hdeclared | ⟨hnew, horigin, hname⟩
      · exact Or.inl hdeclared
      · exact Or.inr ⟨hnew, horigin, Or.inl hname⟩
    · refine Or.inr ⟨?_, horigin, Or.inr hname⟩
      -- what was declared at first would still be declared in the middle
      cases hbefore : before.declared? name with
      | none => rfl
      | some old =>
        rw [h.keeps name old hbefore] at hnew
        cases hnew
  covers := by
    intro type hmem hforeign
    rcases List.mem_append.mp hmem with hmem | hmem
    · obtain ⟨result, hresult, hshape⟩ := h.covers type hmem hforeign
      exact ⟨result, h'.keeps _ result hresult, hshape⟩
    · exact h'.covers type hmem hforeign

/-- A type that is declared with the same shape is left as it is. -/
theorem of_declared {previous : NamedType} (h : before.Tidy)
    (hprevious : before.declared? type.name = some previous)
    (hshape : previous.shape = type.shape) :
    Grown before [type] before where
  tidy := h
  keeps := fun _ _ hdeclared ↦ hdeclared
  adds := fun _ _ hdeclared ↦ Or.inl hdeclared
  covers := by
    intro other hother _
    rw [List.mem_singleton.mp hother]
    exact ⟨previous, hprevious, hshape⟩

theorem of_native (h : before.Tidy) (hnative : type.name ∈ Primitive.nativeNames) :
    Grown before [type] before where
  tidy := h
  keeps := fun _ _ hdeclared ↦ hdeclared
  adds := fun _ _ hdeclared ↦ Or.inl hdeclared
  covers := by
    intro other hother hforeign
    rw [List.mem_singleton.mp hother] at hforeign
    exact absurd hnative hforeign

/-- A type that is not declared is added as imported. -/
theorem of_new (h : before.Tidy) (hforeign : type.name ∉ Primitive.nativeNames)
    (hnew : before.declared? type.name = none) :
    Grown before [type] (before.insert { type with origin := .imported }) where
  tidy := h.insert _
  keeps := by
    intro name old hold
    have hne : name ≠ type.name := by
      intro heq
      rw [heq, hnew] at hold
      cases hold
    rwa [Declarations.declared?_insert_of_ne before { type with origin := .imported } hne]
  adds := by
    intro name result hresult
    by_cases heq : name = type.name
    · subst heq
      rw [Declarations.declared?_insert_self before
        { type with origin := .imported } hforeign] at hresult
      cases hresult
      exact Or.inr ⟨hnew, rfl, by simp⟩
    · rw [Declarations.declared?_insert_of_ne before
        { type with origin := .imported } heq] at hresult
      exact Or.inl hresult
  covers := by
    intro other hother _
    rw [List.mem_singleton.mp hother]
    exact ⟨_, Declarations.declared?_insert_self before
      { type with origin := .imported } hforeign, rfl⟩

end Grown

/-- The error tells that an imported type is in the way of an existing one. -/
def Error.isTypeConflict : Error → Bool
  | .typeConflict .. => true
  | .merging _ cause => cause.isTypeConflict
  | .inService _ cause => cause.isTypeConflict
  | _ => false

/-- A type that is offered has another definition at the start, or is offered with another one. -/
def Disputed (start : Declarations) (offered : List NamedType) : Prop :=
  ∃ type ∈ offered, ∃ previous, (start.declared? type.name = some previous ∨
    previous ∈ offered ∧ previous.name = type.name) ∧ previous.shape ≠ type.shape

variable {before middle after start : Declarations} {first second offered : List NamedType}
  {type : NamedType}

theorem not_disputed_nil (start : Declarations) : ¬ Disputed start [] := by
  rintro ⟨type, htype, -⟩
  exact List.not_mem_nil htype

theorem Disputed.mono (h : Disputed start first) (hsubset : first ⊆ second) :
    Disputed start second := by
  obtain ⟨type, htype, previous, hprevious, hshape⟩ := h
  exact ⟨type, hsubset htype, previous, hprevious.imp_right (And.imp_left fun hmem ↦ hsubset hmem),
    hshape⟩

/-- What is declared after growth was declared before, or is what was offered. -/
theorem Grown.origin (h : Grown start offered middle)
    (hdeclared : middle.declared? name = some type) :
    start.declared? name = some type ∨
      ∃ other ∈ offered, other.name = name ∧ other.shape = type.shape := by
  rcases h.adds name type hdeclared with hstart | ⟨-, -, hname⟩
  · exact Or.inl hstart
  · obtain ⟨other, hother, rfl⟩ := List.mem_map.mp hname
    obtain ⟨hmem, hname⟩ := h.tidy.declared?_eq_some_iff.mp hdeclared
    obtain ⟨result, hresult, hshape⟩ := h.covers other hother (hname ▸ h.tidy.foreign type hmem)
    rw [hdeclared] at hresult
    cases hresult
    exact Or.inr ⟨other, hother, rfl, hshape.symm⟩

/-- A dispute after growth goes back to the start. -/
theorem Disputed.of_grown (h : Grown start first middle) (hdisputed : Disputed middle second) :
    Disputed start (first ++ second) := by
  obtain ⟨type, htype, previous, hprevious, hshape⟩ := hdisputed
  refine ⟨type, List.mem_append_right _ htype, ?_⟩
  rcases hprevious with hdeclared | ⟨hmem, hname⟩
  · rcases h.origin hdeclared with hstart | ⟨other, hother, hname, hsame⟩
    · exact ⟨previous, Or.inl hstart, hshape⟩
    · exact ⟨other, Or.inr ⟨List.mem_append_left _ hother, hname⟩, hsame ▸ hshape⟩
  · exact ⟨previous, Or.inr ⟨List.mem_append_right _ hmem, hname⟩, hshape⟩

/-- One type is taken in, or it is in the way of another of its name and ends the insertion. -/
theorem insertTree_cons (source : String) (h : before.Tidy) (type : NamedType)
    (rest : List NamedType) :
    (∃ next, Grown before [type] next ∧
      insertTree source before (type :: rest) = insertTree source next rest) ∨
      ∃ previous, before.declared? type.name = some previous ∧ previous.shape ≠ type.shape ∧
        insertTree source before (type :: rest) = .error (.typeConflict type.name source) := by
  rw [insertTree]
  by_cases hnative : type.name ∈ Primitive.nativeNames
  · have hreplaced : before.replaced? type.name = none := by
      rw [Declarations.replaced?, if_pos (List.contains_iff_mem.mpr hnative)]
    have hsame := Declarations.insert_of_native before { type with origin := .imported } hnative
    rw [hreplaced]
    simp only [hsame]
    exact Or.inl ⟨before, .of_native h hnative, rfl⟩
  · have hreplaced : before.replaced? type.name = before.declared? type.name := by
      rw [Declarations.replaced?, if_neg (by simpa using hnative)]
    rw [hreplaced]
    cases hprevious : before.declared? type.name with
    | none => exact Or.inl ⟨_, .of_new h hnative hprevious, rfl⟩
    | some previous =>
      by_cases hshape : previous.shape = type.shape
      · exact Or.inl ⟨before, .of_declared h hprevious hshape, if_pos hshape⟩
      · exact Or.inr ⟨previous, rfl, hshape, if_neg hshape⟩

/-- What comes of taking in offered types: declarations that have grown, or an error over two
definitions of a name. -/
def Grows (before : Declarations) (offered : List NamedType) : Except Error Declarations → Prop
  | .ok after => Grown before offered after
  | .error _ => Disputed before offered

theorem Grows.of_grown {outcome : Except Error Declarations} (h : Grown before first middle)
    (hgrows : Grows middle second outcome) : Grows before (first ++ second) outcome := by
  cases outcome with
  | ok after => exact h.trans hgrows
  | error error => exact Disputed.of_grown h hgrows

theorem grows_insertTree (source : String) (h : before.Tidy) (tree : List NamedType) :
    Grows before tree (insertTree source before tree) := by
  induction tree generalizing before with
  | nil =>
    rw [insertTree]
    exact Grown.refl h
  | cons type rest ih =>
    rcases insertTree_cons source h type rest with ⟨next, hnext, heq⟩ |
      ⟨previous, hprevious, hshape, heq⟩
    · rw [heq]
      exact (ih hnext.tidy).of_grown hnext
    · rw [heq]
      exact ⟨type, List.mem_cons_self, previous, Or.inl hprevious, hshape⟩

theorem grows_foldlM_insertTree (source : String) (scope : Scope) (h : before.Tidy)
    (names : List String) :
    Grows before (names.flatMap scope.tree)
      (names.foldlM (fun declarations name ↦
        insertTree source declarations (scope.tree name)) before) := by
  induction names generalizing before with
  | nil => exact Grown.refl h
  | cons name rest ih =>
    have hfirst := grows_insertTree source h (scope.tree name)
    rw [List.foldlM_cons, List.flatMap_cons]
    cases hnext : insertTree source before (scope.tree name) with
    | error error =>
      rw [hnext] at hfirst
      exact Disputed.mono hfirst (List.subset_append_left _ _)
    | ok next =>
      rw [hnext] at hfirst
      exact (ih hfirst.tidy).of_grown hfirst

/-! ### States line up -/

theorem eraseDups_concat (names : List String) (name : String) :
    (names ++ [name]).eraseDups = if name ∈ names then names.eraseDups
      else names.eraseDups ++ [name] := by
  rw [List.eraseDups_append]
  by_cases h : name ∈ names <;> simp [List.removeAll, List.eraseDups_cons, h]

namespace Merging

variable {merging next : Merging} {start : Declarations} {types : List NamedType}
  {states : List TypedState}

/-- What has been merged, when `types` and `states` have been offered: of the states, the first of
every name is listed, in the order of first mention, and the others wait for comparison. -/
structure Holds (start : Declarations) (types : List NamedType) (states : List TypedState)
    (merging : Merging) : Prop where
  grown : Grown start types merging.declarations
  names : merging.states.map TypedState.name = (states.map TypedState.name).eraseDups
  kept : ∀ state ∈ states, state ∈ merging.states ∨ state ∈ merging.repeated

theorem Holds.empty (h : start.Tidy) : Holds start [] [] { declarations := start } where
  grown := .refl h
  names := rfl
  kept := by simp

theorem Holds.addState (h : Holds start types states merging) (state : TypedState) :
    Holds start types (states ++ [state]) (merging.addState state) := by
  have hknown : (merging.states.any fun other ↦ other.name == state.name) = true ↔
      state.name ∈ states.map TypedState.name := by
    rw [← List.mem_eraseDups, ← h.names, List.any_eq_true, List.mem_map]
    simp only [beq_iff_eq]
  have hkept (other : TypedState) (hother : other ∈ states ++ [state]) :
      other ∈ merging.states ∨ other ∈ merging.repeated ∨ other = state := by
    rcases List.mem_append.mp hother with hother | hother
    · exact (h.kept other hother).imp id Or.inl
    · exact Or.inr (Or.inr (List.mem_singleton.mp hother))
  rw [Merging.addState]
  split_ifs with hany
  · refine ⟨h.grown, ?_, fun other hother ↦ ?_⟩
    · rw [List.map_append, List.map_singleton, eraseDups_concat, if_pos (hknown.mp hany)]
      exact h.names
    · rw [List.mem_append, List.mem_singleton]
      exact hkept other hother
  · refine ⟨h.grown, ?_, fun other hother ↦ ?_⟩
    · rw [List.map_append, List.map_append, List.map_singleton, eraseDups_concat,
        if_neg fun hmem ↦ hany (hknown.mpr hmem), h.names]
    · rw [List.mem_append, List.mem_singleton]
      rcases hkept other hother with hlisted | hwaiting | hnew
      · exact Or.inl (Or.inl hlisted)
      · exact Or.inr hwaiting
      · exact Or.inl (Or.inr hnew)

theorem Holds.foldl_addState (h : Holds start types [] merging) (states : List TypedState) :
    Holds start types states (states.foldl Merging.addState merging) := by
  induction states using List.reverseRecOn with
  | nil => exact h
  | append_singleton before state ih =>
    rw [List.foldl_append]
    exact ih.addState state

/-- What comes of offering `types` and `states`: they are held, or there is an error, and if it
tells of a conflict the types are disputed. -/
def Merges (start : Declarations) (types : List NamedType) (states : List TypedState) :
    Except Error Merging → Prop
  | .ok merging => Holds start types states merging
  | .error error => error.isTypeConflict → Disputed start types

theorem Merges.bind {outcome : Except Error Merging} {next : Merging → Except Error Merging}
    {others : List TypedState} (h : Merges start types states outcome) (hsubset : types ⊆ offered)
    (hnext : ∀ merging, Holds start types states merging →
      Merges start offered others (next merging)) :
    Merges start offered others (outcome >>= next) := by
  cases outcome with
  | ok merging => exact hnext merging h
  | error error => exact fun hconflict ↦ (h hconflict).mono hsubset

/-- Each item of a fold offers its types and states. -/
theorem Merges.foldlM {α : Type} {f : Merging → α → Except Error Merging}
    {typesOf : α → List NamedType} {statesOf : α → List TypedState}
    (hstep : ∀ item merging types states, Holds start types states merging →
      Merges start (types ++ typesOf item) (states ++ statesOf item) (f merging item))
    (items : List α) (h : Holds start types states merging) :
    Merges start (types ++ items.flatMap typesOf) (states ++ items.flatMap statesOf)
      (items.foldlM f merging) := by
  induction items generalizing types states merging with
  | nil =>
    rw [List.flatMap_nil, List.flatMap_nil, List.append_nil, List.append_nil]
    exact h
  | cons item rest ih =>
    rw [List.foldlM_cons, List.flatMap_cons,
      List.flatMap_cons, ← List.append_assoc, ← List.append_assoc]
    exact (hstep item merging types states h).bind (List.subset_append_left _ _) fun next hnext ↦
      ih hnext

theorem Holds.addTrees (h : Holds start types states merging) (scope : Scope) (source : String)
    (names : List String) :
    Merges start (types ++ names.flatMap scope.tree) states
      (merging.addTrees scope source names) := by
  have hgrows := (grows_foldlM_insertTree source scope h.grown.tidy names).of_grown h.grown
  unfold Merging.addTrees
  cases hfold : names.foldlM (fun declarations name ↦
      insertTree source declarations (scope.tree name)) merging.declarations with
  | error error =>
    rw [hfold] at hgrows
    exact fun _ ↦ hgrows
  | ok declarations =>
    rw [hfold] at hgrows
    exact ⟨hgrows, h.names, h.kept⟩

theorem Holds.importState (h : Holds start types states merging) (scope : Scope)
    (exporter : Package) (name : String) :
    Merges start (types ++
      ((exporter.state? name).toList.flatMap stateReferences).flatMap scope.tree)
      (states ++ (exporter.state? name).toList) (importState scope exporter merging name) := by
  unfold Merging.importState
  cases exporter.state? name with
  | none => exact nofun
  | some state =>
    rw [Option.toList_some, List.flatMap_singleton]
    exact (h.addTrees scope exporter.header.name (stateReferences state)).bind (List.Subset.refl _)
      fun grown hgrown ↦ hgrown.addState state

theorem Holds.importFrom {self : Import} (h : Holds start types states merging) :
    Merges start (types ++ offeredTypes packages self) (states ++ offeredStates packages self)
      (importFrom packages merging self) := by
  unfold Merging.importFrom offeredTypes offeredStates
  cases find? self.package packages with
  | none => exact nofun
  | some exporter =>
    dsimp only
    cases exporter.scope with
    | error cause => exact nofun
    | ok scope =>
      dsimp only
      rw [importedNames, List.flatMap_append, ← List.append_assoc, List.filterMap_eq_flatMap_toList]
      refine (h.addTrees scope exporter.header.name self.types).bind (List.subset_append_left _ _)
        fun listed hlisted ↦ ?_
      have hstates :=
        Merges.foldlM (fun name _ _ _ hholds ↦ hholds.importState scope exporter name)
          self.states hlisted
      simpa only [List.flatMap_assoc] using hstates

/-- What is merged before all values are settled. -/
theorem merges_foldlM_importFrom (types : List NamedType) (states : List TypedState)
    (imports : List Import) (packages : List Package) :
    Merges (({} : Declarations).insertAll types) (imports.flatMap (offeredTypes packages))
      (states ++ imports.flatMap (offeredStates packages))
      (imports.foldlM (Merging.importFrom packages)
        (states.foldl Merging.addState { declarations := ({} : Declarations).insertAll types })) :=
  Merges.foldlM (fun _ _ _ _ hholds ↦ hholds.importFrom) imports
    ((Holds.empty (Declarations.Tidy.empty.insertAll types)).foldl_addState states)

/-! ### Settling -/

/-- What is returned where merging ends well. -/
structure Finished (merging : Merging) (scope : Scope) (states : List TypedState) : Prop where
  seals : merging.declarations.toScope = .ok scope
  listed : List.Forall₂ (fun state result ↦ TypedState.resolve scope.shape? state = .ok result)
    merging.states states
  repeated : ∀ state ∈ merging.repeated, ∃ result ∈ states,
    TypedState.resolve scope.shape? state = .ok result

theorem finished_of_finish {results : List NamedType} (h : merging.finish = .ok (results, states)) :
    ∃ scope, scope.types = results ∧ Finished merging scope states := by
  unfold finish at h
  obtain ⟨scope, hscope, h⟩ := bind_eq_ok_iff.mp h
  obtain ⟨settled, hsettled, h⟩ := bind_eq_ok_iff.mp h
  obtain ⟨⟨⟩, hrepeated, h⟩ := bind_eq_ok_iff.mp h
  cases h
  refine ⟨scope, rfl, mapError_eq_ok_iff.mp hscope, ?_, fun state hstate ↦ ?_⟩
  · exact (mapM_eq_ok_iff.mp hsettled).imp fun _ _ h ↦ mapError_eq_ok_iff.mp h
  · obtain ⟨result, hresult, h⟩ := bind_eq_ok_iff.mp (forM_eq_ok_iff.mp hrepeated state hstate)
    split_ifs at h with hsame
    rw [not_not] at hsame
    exact ⟨result, List.mem_of_find?_eq_some hsame, mapError_eq_ok_iff.mp hresult⟩

theorem not_isTypeConflict_of_finish (hfailed : merging.finish = .error error) :
    error.isTypeConflict = false := by
  have hsettle {α : Type} {outcome : Except InvalidStateValue α}
      (hfailed : outcome.mapError Error.stateValue = .error error) :
      error.isTypeConflict = false := by
    obtain ⟨cause, -, rfl⟩ := mapError_eq_error_iff.mp hfailed
    rfl
  unfold finish at hfailed
  rcases bind_eq_error_iff.mp hfailed with hfailed | ⟨scope, -, hfailed⟩
  · exact hsettle hfailed
  rcases bind_eq_error_iff.mp hfailed with hfailed | ⟨settled, -, hfailed⟩
  · obtain ⟨state, -, hfailed⟩ := exists_of_mapM_eq_error hfailed
    exact hsettle hfailed
  rcases bind_eq_error_iff.mp hfailed with hfailed | ⟨-, -, hfailed⟩
  · obtain ⟨state, -, hfailed⟩ := exists_of_forM_eq_error hfailed
    rcases bind_eq_error_iff.mp hfailed with hfailed | ⟨result, -, hfailed⟩
    · exact hsettle hfailed
    · split_ifs at hfailed
      · cases hfailed
        rfl
      · cases hfailed
  · cases hfailed

theorem map_name_of_forall₂ {results : List TypedState}
    (h : List.Forall₂ (fun state result ↦ TypedState.resolve lookup state =
      .ok result) states results) :
    results.map TypedState.name = states.map TypedState.name :=
  map_eq_map_of_forall₂ h fun _ _ ↦ TypedState.name_of_resolve

/-- Everything that was offered as a state is settled to a state that is returned. -/
theorem Finished.exists_result {scope : Scope} {results : List TypedState} {state : TypedState}
    (h : Finished merging scope results) (hholds : Holds start types states merging)
    (hstate : state ∈ states) : ∃ result ∈ results, state.resolve scope.shape? = .ok result := by
  rcases hholds.kept state hstate with hlisted | hrepeated
  · exact exists_right_of_forall₂ h.listed hlisted
  · exact h.repeated state hrepeated

end Merging

/-! ### Types that are returned -/

section Sealed

variable {after : Declarations} {types offered : List NamedType} {type result : NamedType}
  {scope : Scope}

/-- Types that are declared are found in the scope, with their names and origins. -/
theorem exists_result_of_declared (htidy : after.Tidy) (hscope : after.toScope = .ok scope)
    (hdeclared : after.declared? type.name = some type) : ∃ result ∈ scope.types,
      Declarations.settle { types := scope.types } type = .ok result ∧
        result.name = type.name ∧ result.origin = type.origin := by
  have hmem := (htidy.declared?_eq_some_iff.mp hdeclared).1
  obtain ⟨result, hresult, hsettled⟩ := Declarations.exists_settled_of_mem hscope hmem
  refine ⟨result, hresult, ?_, hsettled.name, hsettled.origin⟩
  rw [htidy.settle_toScope hscope]
  exact hsettled.settles

variable (hgrown : Grown (({} : Declarations).insertAll types) offered after)
  (hscope : after.toScope = .ok scope)

include hgrown

theorem declared?_of_local (hnames : (types.map NamedType.name).Nodup) (htype : type ∈ types)
    (hforeign : type.name ∉ Primitive.nativeNames) : after.declared? type.name = some type :=
  hgrown.keeps _ _ (Declarations.declared?_insertAll_of_mem hnames htype hforeign)

theorem local_or_imported (hdeclared : after.declared? name = some type) :
    name ∈ types.map NamedType.name ∨
      type.origin = .imported ∧ name ∈ offered.map NamedType.name := by
  rcases hgrown.adds name type hdeclared with hlocal | ⟨-, himported⟩
  · left
    by_contra hnotMem
    rw [Declarations.declared?_insertAll_of_notMem hnotMem] at hlocal
    cases hlocal
  · exact Or.inr himported

include hscope

theorem exists_declared_of_result (hresult : result ∈ scope.types) :
    ∃ type, after.declared? result.name = some type ∧ type.origin = result.origin := by
  obtain ⟨type, htype, hsettled⟩ := Declarations.exists_declared_of_mem hscope hresult
  have hdeclared := hgrown.tidy.declared?_eq_some_iff.mpr ⟨htype, hsettled.name.symm⟩
  exact ⟨type, hdeclared, hsettled.origin.symm⟩

theorem mem_names_iff (hnames : (types.map NamedType.name).Nodup)
    (hforeign : name ∉ Primitive.nativeNames) : name ∈ scope.types.map NamedType.name ↔
      name ∈ types.map NamedType.name ∨ name ∈ offered.map NamedType.name := by
  constructor
  · intro hname
    obtain ⟨result, hresult, rfl⟩ := List.mem_map.mp hname
    obtain ⟨type, hdeclared, -⟩ := exists_declared_of_result hgrown hscope hresult
    exact (local_or_imported hgrown hdeclared).imp id And.right
  · intro hname
    have hdeclared : ∃ type, after.declared? name = some type := by
      rcases hname with hname | hname
      · obtain ⟨type, htype, rfl⟩ := List.mem_map.mp hname
        exact ⟨type, declared?_of_local hgrown hnames htype hforeign⟩
      · obtain ⟨type, htype, rfl⟩ := List.mem_map.mp hname
        obtain ⟨result, hresult, -⟩ := hgrown.covers type htype hforeign
        exact ⟨result, hresult⟩
    obtain ⟨type, hdeclared⟩ := hdeclared
    obtain rfl := (hgrown.tidy.declared?_eq_some_iff.mp hdeclared).2
    obtain ⟨result, hresult, -, hsame, -⟩ := exists_result_of_declared hgrown.tidy hscope hdeclared
    exact List.mem_map.mpr ⟨result, hresult, hsame⟩

theorem exists_result_of_offered (htype : type ∈ offered)
    (hforeign : type.name ∉ Primitive.nativeNames) :
    ∃ result ∈ scope.types,
      Declarations.settle { types := scope.types }
        { type with origin := result.origin } = .ok result := by
  obtain ⟨declared, hdeclared, hshape⟩ := hgrown.covers type htype hforeign
  have hname := (hgrown.tidy.declared?_eq_some_iff.mp hdeclared).2
  rw [← hname] at hdeclared
  obtain ⟨result, hresult, hsettle, -, horigin⟩ :=
    exists_result_of_declared hgrown.tidy hscope hdeclared
  refine ⟨result, hresult, ?_⟩
  have hsame : { type with origin := result.origin } = declared := by
    rw [horigin, ← hname, ← hshape]
  rw [hsame]
  exact hsettle

end Sealed

/-! ### Merging as a whole -/

theorem nodup_eraseDups (names : List String) : names.eraseDups.Nodup := by
  induction names using List.reverseRecOn with
  | nil => exact List.nodup_nil
  | append_singleton before name ih =>
    rw [eraseDups_concat]
    split_ifs with hmem
    · exact ih
    · rw [List.nodup_append]
      refine ⟨ih, List.nodup_singleton name, ?_⟩
      intro other hother last hlast heq
      rw [List.mem_singleton.mp hlast] at heq
      exact hmem (List.mem_eraseDups.mp (heq ▸ hother))

/-- A merge that succeeds has passed through declarations that grew from the local types, and has
settled all that was offered. -/
theorem exists_merging {types results : List NamedType} {states settled : List TypedState}
    (h : mergeTypesAndStates types states imports packages = .ok (results, settled)) :
    ∃ merging scope, scope.types = results ∧
      Merging.Holds (({} : Declarations).insertAll types) (imports.flatMap (offeredTypes packages))
        (states ++ imports.flatMap (offeredStates packages)) merging ∧
      Merging.Finished merging scope settled := by
  obtain ⟨merging, hmerging, hfinish⟩ := bind_eq_ok_iff.mp h
  have hholds := Merging.merges_foldlM_importFrom types states imports packages
  rw [hmerging] at hholds
  obtain ⟨scope, hscope, hfinished⟩ := Merging.finished_of_finish hfinish
  exact ⟨merging, scope, hscope, hholds, hfinished⟩

/-- A merge that ends in a conflict of types has been offered two definitions of one name. -/
theorem disputed_of_mergeTypesAndStates {types : List NamedType} {states : List TypedState}
    (hfailed : mergeTypesAndStates types states imports packages = .error error)
    (hconflict : error.isTypeConflict) :
    Disputed (({} : Declarations).insertAll types) (imports.flatMap (offeredTypes packages)) := by
  rcases bind_eq_error_iff.mp hfailed with hfailed | ⟨merging, -, hfailed⟩
  · have hmerges := Merging.merges_foldlM_importFrom types states imports packages
    rw [hfailed] at hmerges
    exact hmerges hconflict
  · rw [Merging.not_isTypeConflict_of_finish hfailed] at hconflict
    cases hconflict

/-- The types that a merge returns are in the order of their names, and they are those that are
declared or offered. A local type keeps its definition and its origin; a type that is only offered
is imported; and all that is offered under a name is what is returned under it, once the values of
keyed states are settled. The states are the first of every name, the local ones before the imported
ones, and all that is offered under a name is settled to the same state. -/
theorem mergeTypesAndStates_exact {types results : List NamedType}
    {states settled : List TypedState} {imports : List Import} {packages : List Package}
    (hnames : (types.map NamedType.name).Nodup)
    (h : mergeTypesAndStates types states imports packages = .ok (results, settled)) :
    (results.Pairwise fun a b ↦ a.name < b.name) ∧
      (∀ name, name ∉ Primitive.nativeNames → (name ∈ results.map NamedType.name ↔
        name ∈ types.map NamedType.name ∨
          name ∈ (imports.flatMap (offeredTypes packages)).map NamedType.name)) ∧
      (∀ type ∈ types, type.name ∉ Primitive.nativeNames →
        ∃ result ∈ results, Declarations.settle { types := results } type = .ok result ∧
          result.name = type.name ∧ result.origin = type.origin) ∧
      (∀ result ∈ results, result.name ∉ types.map NamedType.name → result.origin = .imported) ∧
      (∀ type ∈ imports.flatMap (offeredTypes packages), type.name ∉ Primitive.nativeNames →
        ∃ result ∈ results,
          Declarations.settle { types := results }
            { type with origin := result.origin } = .ok result) ∧
      (settled.map TypedState.name).Nodup ∧
      settled.map TypedState.name =
        ((states ++ imports.flatMap (offeredStates packages)).map TypedState.name).eraseDups ∧
      ∀ state ∈ states ++ imports.flatMap (offeredStates packages),
        ∃ result ∈ settled, state.resolve (Scope.shape? { types := results }) = .ok result := by
  obtain ⟨merging, scope, rfl, hholds, hfinished⟩ := exists_merging h
  have htidy := hholds.grown.tidy
  have hstates : settled.map TypedState.name =
      ((states ++ imports.flatMap (offeredStates packages)).map TypedState.name).eraseDups :=
    (Merging.map_name_of_forall₂ hfinished.listed).trans hholds.names
  refine ⟨htidy.pairwise_lt_of_toScope hfinished.seals, ?_, ?_, ?_, ?_, ?_, hstates, ?_⟩
  · exact fun name hforeign ↦ mem_names_iff hholds.grown hfinished.seals hnames hforeign
  · intro type htype hforeign
    exact exists_result_of_declared htidy hfinished.seals
      (declared?_of_local hholds.grown hnames htype hforeign)
  · intro result hresult hforeign
    obtain ⟨type, hdeclared, horigin⟩ :=
      exists_declared_of_result hholds.grown hfinished.seals hresult
    rw [← horigin]
    exact ((local_or_imported hholds.grown hdeclared).resolve_left hforeign).1
  · exact fun type htype hforeign ↦
      exists_result_of_offered hholds.grown hfinished.seals htype hforeign
  · rw [hstates]
    exact nodup_eraseDups _
  · intro state hstate
    exact hfinished.exists_result hholds hstate

/-! ### Packages -/

theorem disputed_of_merge {children : List Package}
    (hfailed : merge package children = .error error) (hconflict : error.isTypeConflict) :
    Disputed (({} : Declarations).insertAll package.types)
      (package.imports.flatMap (offeredTypes children)) := by
  rcases bind_eq_error_iff.mp hfailed with hfailed | ⟨⟨types, states⟩, -, hfailed⟩
  · exact disputed_of_mergeTypesAndStates hfailed hconflict
  rcases bind_eq_error_iff.mp hfailed with hfailed | ⟨scope, -, hfailed⟩
  · obtain ⟨cause, -, rfl⟩ := mapError_eq_error_iff.mp hfailed
    cases hconflict
  · split at hfailed
    · cases hfailed
    · cases hfailed
      cases hconflict

theorem forall₂_of_resolvePackageStates {states results : List TypedState}
    (h : State.resolvePackageStates lookup states = (results, none)) :
    List.Forall₂ (fun state result ↦ TypedState.resolve lookup state =
      .ok result) states results := by
  induction states generalizing results with
  | nil =>
    cases h
    exact .nil
  | cons state rest ih =>
    rw [State.resolvePackageStates] at h
    cases hstate : state.resolve lookup with
    | error cause => simp [hstate] at h
    | ok result =>
      simp only [hstate, Prod.mk.injEq] at h
      obtain ⟨rfl, herror⟩ := h
      exact .cons hstate (ih (Prod.ext rfl herror))

/-- Resolving the states of a package leaves its types as they are. -/
theorem resolved_of_resolvePackage {resolved : Package}
    (h : State.resolvePackage lookup package = (resolved, none)) : resolved.types = package.types ∧
      List.Forall₂ (fun state result ↦ TypedState.resolve lookup state = .ok result)
        package.states resolved.states := by
  unfold State.resolvePackage at h
  split at h
  · cases h
  · rename_i states hstates
    obtain ⟨rfl, -⟩ := Prod.mk.inj h
    exact ⟨rfl, forall₂_of_resolvePackageStates hstates⟩

/-- Merging ends with the resolution of what was merged, in its own scope. -/
theorem exists_resolvePackage_of_merge {merged : Package} {children : List Package}
    (h : merge package children = .ok merged) : ∃ types states lookup,
      mergeTypesAndStates package.types package.states package.imports children =
        .ok (types, states) ∧
        State.resolvePackage lookup { package with types, states } = (merged, none) := by
  unfold merge at h
  obtain ⟨⟨types, states⟩, hmerge, h⟩ := bind_eq_ok_iff.mp h
  obtain ⟨scope, -, h⟩ := bind_eq_ok_iff.mp h
  split at h
  · rename_i resolved hresolved
    cases h
    exact ⟨types, states, scope.shape?, hmerge, hresolved⟩
  · cases h

/-- A merged package has the types that merging returns, and its states are settled once more. -/
theorem exists_of_merge {merged : Package} {children : List Package}
    (h : merge package children = .ok merged) : ∃ states lookup,
      mergeTypesAndStates package.types package.states package.imports children =
        .ok (merged.types, states) ∧
        List.Forall₂ (fun state result ↦ TypedState.resolve lookup state = .ok result)
          states merged.states := by
  obtain ⟨types, states, lookup, hmerge, hresolved⟩ := exists_resolvePackage_of_merge h
  obtain ⟨htypes, hstates⟩ := resolved_of_resolvePackage hresolved
  exact ⟨states, lookup, htypes ▸ hmerge, hstates⟩

/-! ### A merge that runs -/

/-- A package whose object and whose state mention one type. -/
def ordersPackage : Package :=
  { apiVersion := "0.6.0"
    header := { owner := "shop", name := "orders", version := "1.0.0" }
    types :=
      [{ name := "order", shape := .object [{ name := "id", type := "order-id" }] },
        { name := "order-id", shape := .primitive .string },
        { name := "count", shape := .primitive .u32 }]
    states := [{ name := "totals", type := { key := "order-id", value := .unresolved "count" } }] }

/-- Takes an object and a state, and with them all that they mention. -/
def ordersImport : Import :=
  { package := ordersPackage.header, types := ["order"], states := ["totals"] }

/-- Declares what the import brings along too. -/
def localOrderTypes : List NamedType := [{ name := "order-id", shape := .primitive .string }]

/-- The local type keeps its origin among imported ones, and the value of the state is settled. -/
def mergedOrderTypes : List NamedType :=
  [{ name := "count", shape := .primitive .u32, origin := .imported },
    { name := "order", shape := .object [{ name := "id", type := "order-id" }],
      origin := .imported },
    { name := "order-id", shape := .primitive .string, origin := .declared }]

def mergedOrderStates : List TypedState :=
  [{ name := "totals", type := { key := "order-id", value := .u32 } }]

theorem mergeTypesAndStates_orders :
    mergeTypesAndStates localOrderTypes [] [ordersImport] [ordersPackage] =
      .ok (mergedOrderTypes, mergedOrderStates) := by
  simp [mergedOrderTypes, mergedOrderStates, localOrderTypes, ordersImport, ordersPackage,
    mergeTypesAndStates, Merging.importFrom, find?, Merging.addTrees, insertTree,
    Merging.importState, stateReferences, Merging.addState, Merging.finish, Package.state?,
    Package.scope, Scope.tree, Scope.collect, Scope.collectAll, Scope.size, Scope.lookup?,
    Scope.shape?, Shape.references, lookupType, Declarations.insertAll, Declarations.insert,
    Declarations.replaced?, Declarations.declared?, Declarations.shape?, Declarations.toScope,
    Declarations.settle, Primitive.nativeNames, TypedState.namedType, TypedState.resolve,
    TypedState.valueShape, Text.sortByName, List.mergeSort, List.forM, bind, Except.bind, pure,
    Except.pure, Except.mapError]

theorem mergeTypesAndStates_exact_orders :
    (localOrderTypes.map NamedType.name).Nodup ∧
      mergeTypesAndStates localOrderTypes [] [ordersImport] [ordersPackage] =
        .ok (mergedOrderTypes, mergedOrderStates) ∧
      (mergedOrderTypes.Pairwise fun a b ↦ a.name < b.name) ∧
      ∀ type ∈ [ordersImport].flatMap (offeredTypes [ordersPackage]),
        type.name ∉ Primitive.nativeNames →
        ∃ result ∈ mergedOrderTypes, Declarations.settle { types := mergedOrderTypes }
          { type with origin := result.origin } = .ok result := by
  have hnames : (localOrderTypes.map NamedType.name).Nodup := by simp [localOrderTypes]
  obtain ⟨hsorted, -, -, -, hoffered, -⟩ :=
    mergeTypesAndStates_exact hnames mergeTypesAndStates_orders
  exact ⟨hnames, mergeTypesAndStates_orders, hsorted, hoffered⟩

end FlowSpec.Package
