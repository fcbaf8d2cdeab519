import FlowSpec.Proofs.Scope.Settling

/-!
The states that services own, as types of a dataflow's scope. The states of all services are stored
under their names in one place, and a state takes the place of an older one of its name, whichever
service owns that. So a name stands for the last state that is owned under it (`OwnsLast`), and
every state stands for its own type exactly if all states of one name become one type once their
values are settled (`scope_unambiguous_iff`).
-/

set_option autoImplicit false

namespace FlowSpec

/-! ### The last of a name -/

namespace Declarations

variable {self : Declarations} {scope : Scope} {name : String} {type : NamedType}

/-- What is declared under a name is the last type that was stored under it. -/
theorem declared?_insertAll (self : Declarations) (types : List NamedType)
    (hforeign : name ∉ Primitive.nativeNames) :
    (self.insertAll types).declared? name =
      (types.reverse.find? fun type ↦ type.name == name).or (self.declared? name) := by
  induction types generalizing self with
  | nil => rfl
  | cons first rest ih =>
    rw [insertAll_cons, ih, List.reverse_cons, List.find?_append, Option.or_assoc]
    congr 1
    by_cases hname : first.name = name
    · subst hname
      rw [declared?_insert_self _ _ hforeign]
      simp
    · rw [declared?_insert_of_ne _ _ (Ne.symm hname)]
      simp [hname]

theorem Tidy.lookup?_of_declared? (h : self.Tidy) (hscope : self.toScope = .ok scope)
    (htype : self.declared? name = some type) :
    ∃ result, self.settle type = .ok result ∧ scope.lookup? name = some result := by
  have hexact : lookupType self.types name = some type := by
    rw [lookupType, show (self.types.find? fun other ↦ other.name == name) = some type from htype,
      Option.orElse_some]
  rcases h.lookup_alike hscope name with ⟨hnone, -⟩ | ⟨found, result, hfound, hresult, hsettled⟩
  · cases hexact.symm.trans hnone
  · cases hexact.symm.trans hfound
    exact ⟨result, hsettled.settles, hresult⟩

end Declarations

/-! ### States that services own -/

namespace Dataflow

variable {dataflow : Dataflow} {name : String} {state : KeyedState}

/-- A service owns a state under a name. -/
def Owns (dataflow : Dataflow) (name : String) (state : KeyedState) : Prop :=
  ∃ service ∈ dataflow.services, ∃ entry ∈ service.states, entry.name = name ∧
    ∃ typed, entry.source = .owned (some typed) ∧ typed.type = state

/-- The types that the states of the services stand for, in the order in which they are stored. -/
def stateTypes (dataflow : Dataflow) : List NamedType :=
  dataflow.services.flatMap fun service ↦ service.states.filterMap PoolState.ownedType?

/-- The state is the last that a service owns under the name. -/
def OwnsLast (dataflow : Dataflow) (name : String) (state : KeyedState) : Prop :=
  (dataflow.stateTypes.reverse.find? fun type ↦ type.name == name) =
    some { name, shape := .keyedState state }

theorem mem_stateTypes_iff {type : NamedType} : type ∈ dataflow.stateTypes ↔
    ∃ state, dataflow.Owns type.name state ∧
      type = { name := type.name, shape := .keyedState state } := by
  constructor
  · intro htype
    obtain ⟨service, hservice, htype⟩ := List.mem_flatMap.mp htype
    obtain ⟨entry, hentry, htype⟩ := List.mem_filterMap.mp htype
    unfold PoolState.ownedType? at htype
    split at htype
    next typed hsource =>
      cases htype
      exact ⟨typed.type, ⟨service, hservice, entry, hentry, rfl, typed, hsource, rfl⟩, rfl⟩
    next => cases htype
  · rintro ⟨_, ⟨service, hservice, entry, hentry, hname, typed, hsource, rfl⟩, htype⟩
    refine List.mem_flatMap.mpr ⟨service, hservice, List.mem_filterMap.mpr ⟨entry, hentry, ?_⟩⟩
    rw [htype, PoolState.ownedType?, hsource, hname]

theorem OwnsLast.owns (h : dataflow.OwnsLast name state) : dataflow.Owns name state := by
  obtain ⟨found, howns, htype⟩ :=
    mem_stateTypes_iff.mp (List.mem_reverse.mp (List.mem_of_find?_eq_some h))
  cases htype
  exact howns

theorem Owns.exists_last (h : dataflow.Owns name state) : ∃ last, dataflow.OwnsLast name last := by
  have hmem : { name, shape := .keyedState state } ∈ dataflow.stateTypes :=
    mem_stateTypes_iff.mpr ⟨state, h, rfl⟩
  obtain ⟨type, htype⟩ := Option.isSome_iff_exists.mp
    (List.find?_isSome (p := fun type : NamedType ↦ type.name ==
      name) |>.mpr ⟨_, List.mem_reverse.mpr hmem, by simp⟩)
  have hname : type.name = name := by simpa using List.find?_some htype
  obtain ⟨last, -, hlast⟩ :=
    mem_stateTypes_iff.mp (List.mem_reverse.mp (List.mem_of_find?_eq_some htype))
  rw [hname] at hlast
  exact ⟨last, htype.trans (congrArg some hlast)⟩

end Dataflow

/-! ### States and what their names stand for -/

namespace Scope

variable {scope : Scope} {name : String} {state : KeyedState}

/-- The name stands for the type of the state, with its value settled. -/
def HasState (scope : Scope) (name : String) (state : KeyedState) : Prop :=
  ∃ settled, TypedState.resolve scope.shape? { name, type := state } = .ok settled ∧
    scope.lookup? name = some settled.namedType

/-- Two states of a name become one type when their values are settled. -/
def SettlesAlike (scope : Scope) (name : String) (first second : KeyedState) : Prop :=
  ∃ settled, TypedState.resolve scope.shape? { name, type := first } = .ok settled ∧
    TypedState.resolve scope.shape? { name, type := second } = .ok settled

theorem HasState.settlesAlike {first second : KeyedState} (h : scope.HasState name first)
    (h' : scope.HasState name second) : scope.SettlesAlike name first second := by
  obtain ⟨settled, hsettled, hlookup⟩ := h
  obtain ⟨other, hother, hlookup'⟩ := h'
  have hname : settled.name = other.name :=
    (TypedState.name_of_resolve hsettled).trans (TypedState.name_of_resolve hother).symm
  have hsame : settled.namedType = other.namedType := Option.some.inj (hlookup.symm.trans hlookup')
  have htype : settled.type = other.type := Shape.keyedState.inj (congrArg NamedType.shape hsame)
  obtain rfl : settled = other := by
    cases settled
    cases other
    cases hname
    cases htype
    rfl
  exact ⟨settled, hsettled, hother⟩

theorem HasState.of_settlesAlike {first second : KeyedState} (h : scope.HasState name second)
    (halike : scope.SettlesAlike name first second) : scope.HasState name first := by
  obtain ⟨settled, hsettled, hlookup⟩ := h
  obtain ⟨other, hfirst, hsecond⟩ := halike
  cases hsettled.symm.trans hsecond
  exact ⟨settled, hfirst, hlookup⟩

end Scope

theorem Dataflow.OwnsLast.hasState {dataflow : Dataflow} {scope : Scope} {name : String}
    {state : KeyedState} (h : dataflow.OwnsLast name state) (hscope : dataflow.scope = .ok scope)
    (hforeign : name ∉ Primitive.nativeNames) : scope.HasState name state := by
  have htidy := ((Declarations.Tidy.empty.insertAll dataflow.types).insertAll dataflow.stateTypes)
  have hdeclared : ((({} : Declarations).insertAll dataflow.types).insertAll
        dataflow.stateTypes).declared? name =
      some { name, shape := .keyedState state } := by
    rw [Declarations.declared?_insertAll _ _ hforeign, h]
    rfl
  obtain ⟨result, hsettle, hlookup⟩ := htidy.lookup?_of_declared? hscope hdeclared
  rw [← htidy.settle_toScope hscope] at hsettle
  rcases Declarations.settle_eq_ok_iff.mp hsettle with ⟨hother, -⟩ |
    ⟨_, settled, hshape, hresolve, rfl⟩
  · exact absurd rfl (hother state)
  · cases hshape
    have hname : settled.name = name := TypedState.name_of_resolve hresolve
    refine ⟨settled, hresolve, hlookup.trans ?_⟩
    rw [TypedState.namedType, hname]

/-- A name stands for the last state that is owned under it. Hence every state that a service owns
stands for its own type exactly if no two services own states of one name that differ once their
values are settled. -/
theorem scope_unambiguous_iff {dataflow : Dataflow} {scope : Scope}
    (hscope : dataflow.scope = .ok scope) :
    (∀ name ∉ Primitive.nativeNames, ∀ state, dataflow.OwnsLast name state →
      scope.HasState name state) ∧
      ((∀ name ∉ Primitive.nativeNames, ∀ state, dataflow.Owns name state →
        scope.HasState name state) ↔
        ∀ name ∉ Primitive.nativeNames, ∀ first second, dataflow.Owns name first →
        dataflow.Owns name second →
          scope.SettlesAlike name first second) := by
  refine ⟨fun name hforeign state hlast ↦ hlast.hasState hscope hforeign, ?_, ?_⟩
  · intro h name hforeign first second hfirst hsecond
    exact (h name hforeign first hfirst).settlesAlike (h name hforeign second hsecond)
  · intro h name hforeign state howns
    obtain ⟨last, hlast⟩ := howns.exists_last
    exact (hlast.hasState hscope hforeign).of_settlesAlike
      (h name hforeign state last howns hlast.owns)

/-! ### Two services with totals -/

namespace Totals

/-- Two services own a state of one name each. -/
def dataflow (sales stock : KeyedState) : Dataflow :=
  { apiVersion := "0.6.0"
    header := { owner := "example", name := "flow", version := "0.1.0" }
    types := [{ name := "amount", shape := .primitive .u32 }]
    services :=
      [{ name := "sales"
         states :=
           [{ name := "totals", source := .owned (some { name := "totals", type := sales }) }] },
       { name := "stock"
         states :=
           [{ name := "totals", source := .owned (some { name := "totals", type := stock }) }] }] }

def scope (state : KeyedState) : Scope :=
  { types := [{ name := "amount", shape := .primitive .u32 },
      { name := "totals", shape := .keyedState state }] }

def byName : KeyedState := { key := "string", value := .u32 }

/-- Names the type of its value, which the dataflow declares. -/
def byNameOpen : KeyedState := { key := "string", value := .unresolved "amount" }

def byNumber : KeyedState := { key := "u64", value := .u32 }

theorem owns_iff {sales stock state : KeyedState} {name : String} :
    (dataflow sales stock).Owns name state ↔ name = "totals" ∧ (state = sales ∨ state = stock) := by
  simp [Dataflow.Owns, dataflow, eq_comm, and_or_left]

/-- The state of the second service is stored, and it is settled. -/
theorem scope_dataflow {sales stock : KeyedState} (settled : TypedState)
    (h : TypedState.resolve (scope stock).shape? { name := "totals", type := stock } =
      .ok settled) :
    (dataflow sales stock).scope = .ok (scope settled.type) := by
  change Declarations.toScope { types := (scope stock).types } = _
  have hsorted : Text.sortByName NamedType.name (scope stock).types = (scope stock).types :=
    List.mergeSort_of_pairwise (by simp [scope])
  have hsettle :
      Declarations.settle { types := (scope stock).types }
      { name := "totals", shape := .keyedState stock } =
      .ok { name := "totals", shape := .keyedState settled.type } :=
    Declarations.settle_eq_ok_iff.mpr (.inr ⟨stock, settled, rfl, h, rfl⟩)
  refine Outcome.bind_eq_ok_iff.mpr ⟨(scope settled.type).types, ?_, rfl⟩
  rw [hsorted, Outcome.mapM_eq_ok_iff]
  exact .cons rfl (.cons hsettle .nil)

end Totals

/-- One service writes the type of its value out, the other one names it: both states are the one in
scope. -/
theorem scope_unambiguous_iff_totals :
    (Totals.dataflow Totals.byName Totals.byNameOpen).scope = .ok (Totals.scope Totals.byName) ∧
      (Totals.dataflow Totals.byName Totals.byNameOpen).OwnsLast "totals" Totals.byNameOpen ∧
      ∀ state ∈ [Totals.byName, Totals.byNameOpen],
        (Totals.scope Totals.byName).HasState "totals" state := by
  have hscope : (Totals.dataflow Totals.byName Totals.byNameOpen).scope =
      .ok (Totals.scope Totals.byName) :=
    Totals.scope_dataflow { name := "totals", type := Totals.byName } rfl
  refine ⟨hscope, rfl, fun state hstate ↦ ?_⟩
  obtain ⟨-, hiff⟩ := scope_unambiguous_iff hscope
  have hall := hiff.mpr fun name _ first second hfirst hsecond ↦ by
    obtain ⟨rfl, rfl | rfl⟩ := Totals.owns_iff.mp hfirst <;> obtain ⟨-, rfl | rfl⟩ :=
      Totals.owns_iff.mp hsecond <;> exact ⟨{ name := "totals", type := Totals.byName }, rfl, rfl⟩
  exact hall "totals" (by decide) state (Totals.owns_iff.mpr ⟨rfl, by simpa using hstate⟩)

/-- Two services own different states of one name, and the dataflow has a scope, in which the name
stands for the second state only. -/
theorem totals_ambiguous :
    (Totals.dataflow Totals.byName Totals.byNumber).scope = .ok (Totals.scope Totals.byNumber) ∧
      (Totals.dataflow Totals.byName Totals.byNumber).Owns "totals" Totals.byName ∧
      (Totals.dataflow Totals.byName Totals.byNumber).Owns "totals" Totals.byNumber ∧
      (Totals.scope Totals.byNumber).HasState "totals" Totals.byNumber ∧
      ¬(Totals.scope Totals.byNumber).HasState "totals" Totals.byName := by
  have hscope : (Totals.dataflow Totals.byName Totals.byNumber).scope =
      .ok (Totals.scope Totals.byNumber) :=
    Totals.scope_dataflow { name := "totals", type := Totals.byNumber } rfl
  refine ⟨hscope, Totals.owns_iff.mpr ⟨rfl, .inl rfl⟩, Totals.owns_iff.mpr ⟨rfl, .inr rfl⟩,
    ⟨{ name := "totals", type := Totals.byNumber }, rfl, rfl⟩, ?_⟩
  rintro ⟨settled, hsettled, hlookup⟩
  cases hsettled
  exact absurd hlookup (by decide)

end FlowSpec
