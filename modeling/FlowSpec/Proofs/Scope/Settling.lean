import FlowSpec.Proofs.Scope.Declarations

/-!
What settling does to the value of a keyed state. An open value is left open if its name stands for
nothing, and becomes a counter or a row if it stands for one; everything else stays as it is. What
has been settled once is not changed by settling it again, so sealing the types of a scope gives the
scope back.
-/

set_option autoImplicit false

namespace FlowSpec

open Outcome

/-- What a keyed state holds if the name of its value stands for this shape. -/
def StateValue.ofShape? : Shape → Option StateValue
  | .primitive .u32 => some .u32
  | .row columns => some (.row columns)
  | _ => none

theorem StateValue.isResolved_of_ofShape? {shape : Shape} {value : StateValue}
    (h : StateValue.ofShape? shape = some value) : value.isResolved := by
  unfold StateValue.ofShape? at h
  split at h <;> cases h <;> rfl

/-- The second shape is the first, or what settling the open value of a keyed state makes of it. -/
inductive Shape.Narrows : Shape → Shape → Prop
  | refl (shape : Shape) : Narrows shape shape
  | settle (key name : String) {value : StateValue} (hvalue : value.isResolved) :
      Narrows (.keyedState { key, value := .unresolved name }) (.keyedState { key, value })

theorem Shape.Narrows.trans {first second third : Shape} (h : first.Narrows second)
    (h' : second.Narrows third) : first.Narrows third := by
  cases h with
  | refl => exact h'
  | settle key name hvalue =>
    cases h' with
    | refl => exact .settle key name hvalue
    | settle => cases hvalue

theorem Shape.Narrows.exists_of_ne {first second : Shape} (h : first.Narrows second)
    (hne : first ≠ second) :
    ∃ key name value, first = .keyedState { key, value := .unresolved name } ∧
      second = .keyedState { key, value } ∧ value.isResolved := by
  cases h with
  | refl => exact absurd rfl hne
  | settle key name hvalue => exact ⟨key, name, _, rfl, rfl, hvalue⟩

/-! ### States -/

namespace TypedState

variable {lookup : String → Option Shape} {state result : TypedState}

theorem valueShape_eq_none_iff {name : String} :
    valueShape lookup name = none ↔ lookup name = none ∧ Primitive.ofName? name = none := by
  unfold valueShape
  cases lookup name <;> simp

/-- A state whose value is not open, or names nothing, is left as it is. -/
theorem resolve_of_closed
    (h : ∀ name, state.type.value = .unresolved name → valueShape lookup name = none) :
    state.resolve lookup = .ok state := by
  unfold resolve
  cases hvalue : state.type.value with
  | unresolved name => simp only [h name hvalue]
  | _ => rfl

/-- A name that stands for a shape is replaced by what a state can hold of it. -/
theorem resolve_of_valueShape {name : String} {shape : Shape}
    (hopen : state.type.value = .unresolved name) (hshape : valueShape lookup name = some shape) :
    state.resolve lookup =
      match StateValue.ofShape? shape with
      | some value => .ok { state with type := { state.type with value } }
      | none => .error ⟨state.name⟩ := by
  simp only [resolve, hopen, hshape]
  rcases shape with - | (_ | _) <;> rfl

theorem resolve_eq_ok_iff : state.resolve lookup = .ok result ↔
    (result = state ∧ ∀ name, state.type.value = .unresolved name → valueShape lookup name = none) ∨
      ∃ name shape value, state.type.value = .unresolved name ∧
      valueShape lookup name = some shape ∧
        StateValue.ofShape? shape = some value ∧
          result = { state with type := { state.type with value } } := by
  constructor
  · intro h
    by_cases hclosed : ∀ name, state.type.value = .unresolved name → valueShape lookup name = none
    · rw [resolve_of_closed hclosed] at h
      cases h
      exact Or.inl ⟨rfl, hclosed⟩
    · simp only [not_forall] at hclosed
      obtain ⟨name, hopen, hsome⟩ := hclosed
      obtain ⟨shape, hshape⟩ := Option.ne_none_iff_exists'.mp hsome
      rw [resolve_of_valueShape hopen hshape] at h
      cases hvalue : StateValue.ofShape? shape with
      | none =>
        rw [hvalue] at h
        cases h
      | some value =>
        rw [hvalue] at h
        cases h
        exact Or.inr ⟨name, shape, value, hopen, hshape, hvalue, rfl⟩
  · rintro (⟨rfl, hclosed⟩ | ⟨name, shape, value, hopen, hshape, hvalue, rfl⟩)
    · exact resolve_of_closed hclosed
    · rw [resolve_of_valueShape hopen hshape, hvalue]

theorem name_of_resolve (h : state.resolve lookup = .ok result) : result.name = state.name := by
  rcases resolve_eq_ok_iff.mp h with ⟨rfl, -⟩ | ⟨_, _, _, -, -, -, rfl⟩ <;> rfl

theorem narrows_of_resolve (h : state.resolve lookup = .ok result) :
    (Shape.keyedState state.type).Narrows (.keyedState result.type) := by
  rcases resolve_eq_ok_iff.mp h with ⟨rfl, -⟩ | ⟨name, shape, value, hopen, -, hvalue, rfl⟩
  · exact .refl _
  · have htype : state.type = { key := state.type.key, value := .unresolved name } := by
      rw [← hopen]
    rw [htype]
    exact .settle _ name (StateValue.isResolved_of_ofShape? hvalue)

/-- A value that is left open has a name that stands for nothing. -/
theorem of_open {name : String} (h : state.resolve lookup = .ok result)
    (hopen : result.type.value = .unresolved name) :
    result = state ∧ valueShape lookup name = none := by
  rcases resolve_eq_ok_iff.mp h with ⟨rfl, hnone⟩ | ⟨_, shape, value, -, -, hvalue, rfl⟩
  · exact ⟨rfl, hnone name hopen⟩
  · have hresolved := StateValue.isResolved_of_ofShape? hvalue
    rw [show value = .unresolved name from hopen] at hresolved
    cases hresolved

theorem resolve_of_isResolved {state : TypedState} (lookup : String → Option Shape)
    (h : state.type.value.isResolved) : state.resolve lookup = .ok state := by
  refine resolve_of_closed fun name hopen ↦ ?_
  rw [hopen] at h
  cases h

/-- What has been settled is settled. -/
theorem resolve_of_resolve (h : state.resolve lookup = .ok result) :
    result.resolve lookup = .ok result :=
  resolve_of_closed fun _ hopen ↦ (of_open h hopen).2

end TypedState

/-! ### Types -/

/-- The value of a keyed state is not open. -/
def NamedType.IsSettled (type : NamedType) : Prop :=
  ∀ state, type.shape = .keyedState state → state.value.isResolved

namespace Declarations

variable {self : Declarations} {scope : Scope} {type result : NamedType}

theorem settle_eq_ok_iff : self.settle type = .ok result ↔
    ((∀ state, type.shape ≠ .keyedState state) ∧ result = type) ∨
      ∃ state typed, type.shape = .keyedState state ∧
        TypedState.resolve self.shape? { name := type.name, type := state } = .ok typed ∧
          result = { type with shape := .keyedState typed.type } := by
  unfold settle
  cases hshape : type.shape with
  | keyedState state =>
    constructor
    · intro h
      obtain ⟨typed, htyped, h⟩ := bind_eq_ok_iff.mp h
      cases h
      exact Or.inr ⟨state, typed, rfl, htyped, rfl⟩
    · rintro (⟨hother, -⟩ | ⟨other, typed, hother, htyped, rfl⟩)
      · exact absurd rfl (hother state)
      · cases hother
        exact bind_eq_ok_iff.mpr ⟨typed, htyped, rfl⟩
  | _ => simp [eq_comm]

theorem narrows_of_settle (h : self.settle type = .ok result) :
    type.shape.Narrows result.shape := by
  rcases settle_eq_ok_iff.mp h with ⟨-, rfl⟩ | ⟨state, typed, hshape, htyped, rfl⟩
  · exact .refl _
  · rw [hshape]
    exact TypedState.narrows_of_resolve htyped

theorem settle_of_settle (h : self.settle type = .ok result) : self.settle result = .ok result := by
  rcases settle_eq_ok_iff.mp h with ⟨hshape, rfl⟩ | ⟨state, typed, -, htyped, rfl⟩
  · exact settle_eq_ok_iff.mpr (Or.inl ⟨hshape, rfl⟩)
  · refine settle_eq_ok_iff.mpr (Or.inr ⟨typed.type, typed, rfl, ?_, rfl⟩)
    have hname : typed.name = type.name := TypedState.name_of_resolve htyped
    rw [← hname]
    exact TypedState.resolve_of_resolve htyped

theorem settle_of_isSettled (self : Declarations) {type : NamedType} (h : type.IsSettled) :
    self.settle type = .ok type := by
  refine settle_eq_ok_iff.mpr ?_
  by_cases hkeyed : ∃ state, type.shape = .keyedState state
  · obtain ⟨state, hshape⟩ := hkeyed
    refine Or.inr ⟨state, { name := type.name, type := state }, hshape,
      TypedState.resolve_of_isResolved _ (h state hshape), ?_⟩
    rw [← hshape]
  · exact Or.inl ⟨fun state hshape ↦ hkeyed ⟨state, hshape⟩, rfl⟩

/-- Sealing declarations that are settled only sorts them. -/
theorem toScope_of_isSettled (h : ∀ type ∈ self.types, type.IsSettled) :
    self.toScope = .ok { types := Text.sortByName NamedType.name self.types } := by
  refine bind_eq_ok_iff.mpr ⟨_, mapM_eq_ok_iff.mpr (List.forall₂_same.mpr fun type htype ↦ ?_), rfl⟩
  exact settle_of_isSettled self (h type (Text.mem_sortByName.mp htype))

/-- In a scope, the name of a value that is left open stands for nothing. -/
theorem Tidy.valueShape_of_open {key name : String} (h : self.Tidy)
    (hscope : self.toScope = .ok scope) (hresult : result ∈ scope.types)
    (hopen : result.shape = .keyedState { key, value := .unresolved name }) :
    TypedState.valueShape scope.shape? name = none := by
  obtain ⟨type, -, hsettled⟩ := exists_declared_of_mem hscope hresult
  have hsettle := settle_of_settle hsettled.settles
  rw [← h.settle_toScope hscope] at hsettle
  rcases settle_eq_ok_iff.mp hsettle with ⟨hshape, -⟩ | ⟨state, typed, hshape, htyped, hresult⟩
  · exact absurd hopen (hshape _)
  · have hvalue : typed.type.value = .unresolved name := by
      have hsame := congrArg NamedType.shape hresult
      rw [hopen, Shape.keyedState.injEq] at hsame
      rw [← hsame]
    exact (TypedState.of_open htyped hvalue).2

/-! ### Sealing again -/

/-- Types of different names are stored as they come, but for those that have the name of a
primitive type. -/
theorem types_insertAll (types : List NamedType)
    (hnames : (self.types ++ types |>.map NamedType.name).Nodup) :
    (self.insertAll types).types =
      self.types ++ types.filter fun type ↦ type.name ∉ Primitive.nativeNames := by
  induction types generalizing self with
  | nil => simp [insertAll]
  | cons type rest ih =>
    rw [List.map_append, List.map_cons] at hnames
    by_cases hforeign : type.name ∈ Primitive.nativeNames
    · have hrest : (self.types ++ rest |>.map NamedType.name).Nodup := by
        rw [List.map_append]
        exact hnames.sublist (List.Sublist.append_left (List.sublist_cons_self _ _) _)
      rw [insertAll_cons, insert_of_native self type hforeign, ih hrest,
        List.filter_cons_of_neg (by simpa using hforeign)]
    · have hnew : self.declared? type.name = none := by
        refine find?_name_eq_none_iff.mpr fun hmem ↦ ?_
        exact (List.nodup_append.mp hnames).2.2 _ hmem _ List.mem_cons_self rfl
      have hinsert := types_insert_of_new hforeign hnew
      rw [insertAll_cons, ih (by simpa [hinsert] using hnames), hinsert,
        List.filter_cons_of_pos (by simpa using hforeign)]
      simp

theorem Tidy.foreign_of_toScope (h : self.Tidy) (hscope : self.toScope = .ok scope) :
    ∀ result ∈ scope.types, result.name ∉ Primitive.nativeNames := by
  intro result hresult
  obtain ⟨type, htype, hsettled⟩ := exists_declared_of_mem hscope hresult
  rw [hsettled.name]
  exact h.foreign type htype

theorem Tidy.nodup_of_toScope (h : self.Tidy) (hscope : self.toScope = .ok scope) :
    (scope.types.map NamedType.name).Nodup :=
  List.pairwise_map.mpr ((h.pairwise_lt_of_toScope hscope).imp fun hlt ↦ ne_of_lt hlt)

/-- Sealing the types of a scope gives the scope back. -/
theorem Tidy.ofTypes_of_toScope (h : self.Tidy) (hscope : self.toScope = .ok scope) :
    Scope.ofTypes scope.types = .ok scope := by
  have hall : (({} : Declarations).insertAll scope.types).types = scope.types := by
    refine (@types_insertAll {} scope.types (h.nodup_of_toScope hscope)).trans
      (List.filter_eq_self.mpr ?_)
    exact fun type htype ↦ decide_eq_true (h.foreign_of_toScope hscope type htype)
  have hsorted : Text.sortByName NamedType.name scope.types = scope.types :=
    List.mergeSort_of_pairwise
      ((h.pairwise_lt_of_toScope hscope).imp fun hlt ↦ by simpa using hlt.le)
  have hsettled (result : NamedType) (hresult : result ∈ scope.types) :
      (({} : Declarations).insertAll scope.types).settle result = .ok result := by
    obtain ⟨type, -, hsettled⟩ := exists_declared_of_mem hscope hresult
    have hsame : ({} : Declarations).insertAll scope.types = { types := scope.types } :=
      congrArg Declarations.mk hall
    rw [hsame, h.settle_toScope hscope]
    exact settle_of_settle hsettled.settles
  refine bind_eq_ok_iff.mpr ⟨scope.types, ?_, rfl⟩
  rw [hall, hsorted, mapM_eq_ok_iff, List.forall₂_same]
  exact hsettled

end Declarations

/-! ### Sealed scopes -/

namespace Scope

variable {scope : Scope} {name : String} {type : NamedType}

/-- The scope was made by sealing declarations. -/
def Sealed (scope : Scope) : Prop := ∃ self : Declarations, self.Tidy ∧ self.toScope = .ok scope

/-- Settled types in the order of their names are sealed as they are. -/
theorem sealed_of_isSettled {types : List NamedType}
    (hsorted : types.Pairwise fun first second ↦ first.name < second.name)
    (hforeign : ∀ type ∈ types, type.name ∉ Primitive.nativeNames)
    (hsettled : ∀ type ∈ types, type.IsSettled) :
    Sealed { types } := by
  have hnodup : (types.map NamedType.name).Nodup :=
    List.pairwise_map.mpr (hsorted.imp fun hlt ↦ hlt.ne)
  have hsort : Text.sortByName NamedType.name types = types :=
    List.mergeSort_of_pairwise (hsorted.imp fun hlt ↦ by simpa using hlt.le)
  refine ⟨⟨types⟩, ⟨hnodup, hforeign⟩, ?_⟩
  rw [Declarations.toScope_of_isSettled hsettled, hsort]

theorem Sealed.nodup (h : scope.Sealed) : (scope.types.map NamedType.name).Nodup := by
  obtain ⟨self, htidy, hscope⟩ := h
  exact htidy.nodup_of_toScope hscope

theorem Sealed.foreign (h : scope.Sealed) (htype : type ∈ scope.types) :
    type.name ∉ Primitive.nativeNames := by
  obtain ⟨self, htidy, hscope⟩ := h
  exact htidy.foreign_of_toScope hscope type htype

theorem valueShape_eq_none_iff : TypedState.valueShape scope.shape? name = none ↔
    scope.lookup? name = none ∧ Primitive.ofName? name = none := by
  rw [TypedState.valueShape_eq_none_iff, shape?, Option.map_eq_none_iff]

/-- The name of a value that is left open is neither that of a type nor a primitive's. -/
theorem Sealed.lookup?_of_open {key : String} (h : scope.Sealed) (htype : type ∈ scope.types)
    (hopen : type.shape = .keyedState { key, value := .unresolved name }) :
    scope.lookup? name = none ∧ Primitive.ofName? name = none := by
  obtain ⟨self, htidy, hscope⟩ := h
  exact valueShape_eq_none_iff.mp (htidy.valueShape_of_open hscope htype hopen)

end Scope

end FlowSpec
