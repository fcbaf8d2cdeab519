import FlowSpec.Proofs.Scope.Settling

/-!
Sealing as a function of what is declared. The values of keyed states are looked up among all
declarations, so a name may be declared behind the state that mentions it; neither what the values
become nor which of them is refused first depends on the order of declaration (`ofTypes_perm`). A
value becomes a counter or a row if its name tells so (`heldValue?`), and sealing changes nothing
else (`Tidy.toScope_eq_ok_iff`).
-/

set_option autoImplicit false

namespace FlowSpec

open Outcome

theorem Primitive.ofName?_eq_u32_iff {name : String} : ofName? name = some .u32 ↔ name = "u32" := by
  constructor
  · intro h
    have hspelled : ∀ spelling ∈ spellings, spelling.2 = .u32 → spelling.1 = "u32" := by decide
    obtain ⟨before, after, hsplit, -⟩ := List.lookup_eq_some_iff.mp h
    exact hspelled (name, .u32) (by simp [hsplit]) rfl
  · rintro rfl
    rfl

theorem StateValue.ofShape?_primitive {kind : Primitive} (h : kind ≠ .u32) :
    StateValue.ofShape? (.primitive kind) = none := by
  unfold StateValue.ofShape?
  split <;> simp_all

/-! ### What values become -/

/-- What a keyed state holds if this is the name of its value: a counter for the name `u32` or one
that stands for that primitive type, a row for a name that stands for a row. -/
def heldValue? (types : List NamedType) (name : String) : Option StateValue :=
  if name = "u32" then some .u32
  else (lookupType types name).bind fun type ↦ StateValue.ofShape? type.shape

namespace Shape

/-- The shape with the value of a keyed state settled, where the name of the value tells what the
state holds. -/
def settledAmong (types : List NamedType) : Shape → Shape
  | keyedState { key, value := .unresolved name } =>
    keyedState { key, value := (heldValue? types name).getD (.unresolved name) }
  | shape => shape

/-- The name of an open value tells what the state holds, or stands for nothing at all. -/
def Admitted (types : List NamedType) (shape : Shape) : Prop :=
  ∀ key name, shape = keyedState { key, value := .unresolved name } →
    (heldValue? types name).isSome ∨ lookupType types name = none ∧ Primitive.ofName? name = none

end Shape

namespace Declarations

variable {self other : Declarations} {scope : Scope} {name : String} {type result : NamedType}

/-- No declaration stands in the way of a primitive type. -/
theorem Tidy.lookupType_native (h : self.Tidy) (hnative : name ∈ Primitive.nativeNames) :
    lookupType self.types name = none := by
  have hplain : ∀ name ∈ Primitive.nativeNames, Text.replaceChar '-' '_' name = name := by decide
  have hnew : name ∉ self.types.map NamedType.name := by
    intro hname
    obtain ⟨type, htype, rfl⟩ := List.mem_map.mp hname
    exact h.foreign type htype hnative
  exact lookupType_eq_none_iff.mpr ⟨hnew, by rwa [hplain name hnative]⟩

/-- What a state can hold of the shape that a name stands for is told by the name. -/
theorem Tidy.bind_valueShape (h : self.Tidy) (name : String) :
    (TypedState.valueShape self.shape? name).bind StateValue.ofShape? =
      heldValue? self.types name := by
  unfold heldValue? TypedState.valueShape shape?
  split_ifs with hname
  · rw [hname, h.lookupType_native (by decide)]
    rfl
  · cases hlookup : lookupType self.types name with
    | some type => rfl
    | none =>
      -- another primitive type is nothing that a state can hold
      cases hspelled : Primitive.ofName? name with
      | none => rfl
      | some kind =>
        exact StateValue.ofShape?_primitive fun hkind ↦
          hname (Primitive.ofName?_eq_u32_iff.mp (hkind ▸ hspelled))

/-- An open value becomes what its name tells; a name that tells nothing must stand for nothing. -/
theorem Tidy.resolve_open (h : self.Tidy) {state settled : TypedState}
    (hopen : state.type.value = .unresolved name) :
    state.resolve self.shape? = .ok settled ↔
      ((heldValue? self.types name).isSome ∨ lookupType self.types name = none ∧
        Primitive.ofName? name = none) ∧
        { state with
          type :=
            { state.type with value := (heldValue? self.types name).getD (.unresolved name) } } =
          settled := by
  have hnothing : lookupType self.types name = none ∧ Primitive.ofName? name = none ↔
      TypedState.valueShape self.shape? name = none := by
    rw [TypedState.valueShape_eq_none_iff, shape?, Option.map_eq_none_iff]
  rw [hnothing, ← h.bind_valueShape]
  cases hshape : TypedState.valueShape self.shape? name with
  | none =>
    have hclosed : state.resolve self.shape? = .ok state := by
      refine TypedState.resolve_of_closed fun other hother ↦ ?_
      rw [hopen, StateValue.unresolved.injEq] at hother
      rwa [← hother]
    rw [hclosed]
    simp [← hopen]
  | some shape =>
    rw [TypedState.resolve_of_valueShape hopen hshape, Option.bind_some]
    cases StateValue.ofShape? shape <;> simp

theorem Tidy.settle_eq_ok_iff (h : self.Tidy) : self.settle type = .ok result ↔
    type.shape.Admitted self.types ∧
      { type with shape := type.shape.settledAmong self.types } = result := by
  by_cases hopen : ∃ key name, type.shape = .keyedState { key, value := .unresolved name }
  · obtain ⟨key, name, hshape⟩ := hopen
    have hadmitted : type.shape.Admitted self.types ↔ (heldValue? self.types name).isSome ∨
        lookupType self.types name = none ∧ Primitive.ofName? name = none := by
      rw [hshape]
      refine ⟨fun hall ↦ hall key name rfl, ?_⟩
      rintro hname _ _ ⟨⟩
      exact hname
    have hresolve (settled : TypedState) := @h.resolve_open _ name
      { name := type.name, type := { key, value := .unresolved name } } settled rfl
    rw [hadmitted, settle, hshape, bind_eq_ok_iff]
    simp only [hresolve, Shape.settledAmong, pure_eq_ok, Except.ok.injEq]
    constructor
    · rintro ⟨_, ⟨hname, rfl⟩, hresult⟩
      exact ⟨hname, hresult⟩
    · rintro ⟨hname, hresult⟩
      exact ⟨_, ⟨hname, rfl⟩, hresult⟩
  · simp only [not_exists] at hopen
    have hadmitted : type.shape.Admitted self.types :=
      fun key name hshape ↦ absurd hshape (hopen key name)
    have hsettled : type.IsSettled := by
      rintro ⟨key, value⟩ hshape
      cases value with
      | unresolved name => exact absurd hshape (hopen key name)
      | _ => rfl
    have hsame : type.shape.settledAmong self.types = type.shape := by
      unfold Shape.settledAmong
      split
      next key name hshape => exact absurd hshape (hopen key name)
      next => rfl
    rw [settle_of_isSettled self hsettled, hsame, Except.ok.injEq]
    exact (and_iff_right hadmitted).symm

/-- Sealing succeeds exactly if all values are admitted. It puts the declarations in the order of
their names and settles the values whose names tell what the states hold. -/
theorem Tidy.toScope_eq_ok_iff (h : self.Tidy) : self.toScope = .ok scope ↔
    (∀ type ∈ self.types, type.shape.Admitted self.types) ∧
      scope.types = (Text.sortByName NamedType.name self.types).map fun type ↦
        { type with shape := type.shape.settledAmong self.types } := by
  have hsettles : self.toScope = .ok scope ↔
      (Text.sortByName NamedType.name self.types).mapM self.settle = .ok scope.types := by
    constructor
    · intro hscope
      obtain ⟨types, htypes, hscope⟩ := bind_eq_ok_iff.mp hscope
      cases hscope
      exact htypes
    · exact fun htypes ↦ bind_eq_ok_iff.mpr ⟨scope.types, htypes, rfl⟩
  rw [hsettles, mapM_eq_ok_iff]
  simp only [h.settle_eq_ok_iff]
  rw [List.forall₂_and_left, ← List.forall₂_map_left_iff, List.forall₂_eq_eq_eq]
  simp only [Text.mem_sortByName, eq_comm]

/-! ### The order of declaration -/

theorem toScope_perm (hperm : self.types.Perm other.types) (h : self.Tidy) :
    self.toScope = other.toScope := by
  have hshape : self.shape? = other.shape? := by
    funext name
    rw [shape?, shape?, lookupType_perm hperm h.nodup]
  have hsettle : self.settle = other.settle := by
    funext type
    rw [settle, settle, hshape]
  have hsorted : Text.sortByName NamedType.name self.types =
      Text.sortByName NamedType.name other.types :=
    Text.sortByName_congr hperm fun _ hfirst _ hsecond ↦
      List.inj_on_of_nodup_map h.nodup hfirst hsecond
  rw [toScope, toScope, hsettle, hsorted]

end Declarations

namespace Scope

/-- Types of different names are sealed alike in whatever order they are declared, or refused with
the same error. -/
theorem ofTypes_perm {types others : List NamedType} (hperm : types.Perm others)
    (hnames : (types.map NamedType.name).Nodup) : ofTypes types = ofTypes others := by
  have hothers := (hperm.map NamedType.name).nodup_iff.mp hnames
  refine Declarations.toScope_perm ?_ (Declarations.Tidy.empty.insertAll types)
  rw [@Declarations.types_insertAll {} types hnames,
    @Declarations.types_insertAll {} others hothers]
  exact (hperm.filter _).append_left []

/-- Sealing does not depend on the order in which types of different names are declared. It settles
the values of keyed states whose names tell what the states hold, wherever the names are declared,
and leaves everything else as it is; it succeeds exactly if every other name of a value stands for
nothing. The types of a scope are sealed as they are. -/
theorem ofTypes_exact :
    (∀ types others : List NamedType, types.Perm others → (types.map NamedType.name).Nodup →
      ofTypes types = ofTypes others) ∧
    (∀ self : Declarations, self.Tidy → ∀ scope, self.toScope = .ok scope ↔
      (∀ type ∈ self.types, type.shape.Admitted self.types) ∧
        scope.types = (Text.sortByName NamedType.name self.types).map fun type ↦
          { type with shape := type.shape.settledAmong self.types }) ∧
    ∀ scope : Scope, scope.Sealed → ofTypes scope.types = .ok scope := by
  refine ⟨fun types others ↦ ofTypes_perm, fun self htidy scope ↦ htidy.toScope_eq_ok_iff, ?_⟩
  rintro scope ⟨self, htidy, hscope⟩
  exact htidy.ofTypes_of_toScope hscope

/-- States before the types of their values; one is mentioned by another spelling, and one is
declared nowhere. -/
def stockTypes : List NamedType :=
  [{ name := "counts", shape := .keyedState { key := "string", value := .unresolved "amount" } },
    { name := "marks", shape := .keyedState { key := "string", value := .unresolved "mark" } },
    { name := "lines",
      shape := .keyedState { key := "string", value := .unresolved "stock-line" } },
    { name := "amount", shape := .primitive .u32 },
    { name := "stock_line", shape := .row [{ name := "item", type := "string" }] }]

def stockScope : Scope :=
  { types :=
      [{ name := "amount", shape := .primitive .u32 },
        { name := "counts", shape := .keyedState { key := "string", value := .u32 } },
        { name := "lines",
          shape :=
            .keyedState { key := "string", value := .row [{ name := "item", type := "string" }] } },
        { name := "marks", shape := .keyedState { key := "string", value := .unresolved "mark" } },
        { name := "stock_line", shape := .row [{ name := "item", type := "string" }] }] }

theorem ofTypes_stockTypes : ofTypes stockTypes = .ok stockScope := by
  have hmark : Primitive.ofName? "mark" = none := by decide
  simp [ofTypes, stockTypes, stockScope, Declarations.insertAll, Declarations.insert,
    Declarations.declared?, Declarations.toScope, Declarations.settle, Declarations.shape?,
    lookupType, Primitive.nativeNames, hmark, TypedState.resolve, TypedState.valueShape,
    Text.replaceChar, Text.sortByName, List.mergeSort, bind, Except.bind, pure, Except.pure]

theorem ofTypes_exact_stock :
    stockTypes.Perm stockTypes.reverse ∧ (stockTypes.map NamedType.name).Nodup ∧
      ofTypes stockTypes = .ok stockScope ∧ ofTypes stockTypes = ofTypes stockTypes.reverse ∧
      (∀ type ∈ stockTypes, type.shape.Admitted stockTypes) ∧
      stockScope.Sealed ∧ ofTypes stockScope.types = .ok stockScope := by
  obtain ⟨hperm, hexact, hagain⟩ := ofTypes_exact
  have hnames : (stockTypes.map NamedType.name).Nodup := by decide
  have hdeclared : ({} : Declarations).insertAll stockTypes = { types := stockTypes } := by decide
  have htidy : Declarations.Tidy { types := stockTypes } :=
    hdeclared ▸ Declarations.Tidy.empty.insertAll stockTypes
  have hscope : Declarations.toScope { types := stockTypes } = .ok stockScope :=
    hdeclared ▸ ofTypes_stockTypes
  have hsealed : stockScope.Sealed := ⟨_, htidy, hscope⟩
  exact ⟨(List.reverse_perm _).symm, hnames, ofTypes_stockTypes,
    hperm _ _ (List.reverse_perm _).symm hnames, ((hexact _ htidy _).mp hscope).1, hsealed,
    hagain _ hsealed⟩

end Scope

end FlowSpec
