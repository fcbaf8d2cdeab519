import FlowSpec.Proofs.Scope.Settling
import FlowSpec.Wit.Types

/-!
The shared interface of types and the identifiers in it. Every definition demands its identifier for
the type that it stands behind, and a demand is registered if nobody has made it before. The check
of a scope is the registration of all demands, one after the other and behind that of octet strings
(`checkTypes_eq_foldlM`). It fails at the first demand that repeats another, so the interface exists
exactly if all identifiers are different, and then it holds every definition once.
-/

set_option autoImplicit false

namespace FlowSpec.Wit

open Outcome

/-! ### Demands -/

/-- An identifier with the name of the type that needs it. -/
abbrev Demand := String × String

/-- What a definition behind a type demands. -/
def demand (type : String) (definition : TypeDef) : Demand := (unmarked definition.name, type)

/-- What a type demands, in the order of its definitions. -/
def demandsOf (type : NamedType) : List Demand := (typeDefs type).map (demand type.name)

/-- All demands on the shared interface, in order; octet strings come first. -/
def demands (scope : Scope) : List Demand := ("bytes", "bytes") :: scope.types.flatMap demandsOf

/-- The identifiers of the shared interface without the marks of keywords, in order. -/
def identifiers (scope : Scope) : List String :=
  "bytes" :: (scope.types.flatMap typeDefs).map fun definition ↦ unmarked definition.name

theorem map_fst_demands (scope : Scope) : (demands scope).map Prod.fst = identifiers scope := by
  simp [demands, identifiers, demandsOf, demand, List.map_flatMap, Function.comp_def]

/-! ### Registration -/

/-- Registers a demand, the latest first. -/
def register (owners : List Demand) (demand : Demand) : Except Collision (List Demand) :=
  match owners.lookup demand.1 with
  | some owner => .error { kind := "type", identifier := demand.1, newcomer := demand.2, owner }
  | none => .ok (demand :: owners)

theorem checkOwners_eq_foldlM (type : String) (definitions : List TypeDef) (owners : List Demand) :
    checkOwners type definitions owners =
      (definitions.map (demand type)).foldlM register owners := by
  induction definitions generalizing owners with
  | nil => rfl
  | cons definition rest ih =>
    rw [checkOwners, List.map_cons, List.foldlM_cons, register, demand]
    dsimp only
    cases owners.lookup (unmarked definition.name) with
    | some owner => rfl
    | none => exact ih _

theorem checkTypes_eq_foldlM (types : List NamedType) (owners : List Demand) :
    checkTypes types owners = (types.flatMap demandsOf).foldlM register owners >>= fun _ ↦
      .ok () := by
  induction types generalizing owners with
  | nil => rfl
  | cons type rest ih =>
    rw [checkTypes, checkOwners_eq_foldlM, List.flatMap_cons, List.foldlM_append, bind_assoc]
    exact bind_congr fun owners ↦ ih owners

theorem register_eq_ok_iff {owners result : List Demand} {demand : Demand} :
    register owners demand = .ok result ↔ demand.1 ∉ owners.map Prod.fst ∧
      result = demand :: owners := by
  rw [register]
  cases hlookup : owners.lookup demand.1 with
  | none =>
    have hnew : demand.1 ∉ owners.map Prod.fst := by
      intro hmem
      obtain ⟨owner, howner, hname⟩ := List.mem_map.mp hmem
      simpa [hname] using List.lookup_eq_none_iff.mp hlookup owner howner
    simp [hnew, eq_comm]
  | some owner =>
    obtain ⟨before, after, hsplit, -⟩ := List.lookup_eq_some_iff.mp hlookup
    simp [hsplit]

theorem register_eq_error_iff {owners : List Demand} {demand : Demand} {collision : Collision} :
    register owners demand = .error collision ↔ owners.lookup demand.1 = some collision.owner ∧
      collision =
        { kind := "type", identifier := demand.1, newcomer := demand.2,
          owner := collision.owner } := by
  rw [register]
  cases owners.lookup demand.1 with
  | none => simp
  | some owner =>
    constructor
    · rintro ⟨⟩
      exact ⟨rfl, rfl⟩
    · rintro ⟨howner, hcollision⟩
      rw [hcollision, Option.some.inj howner]

section Run

variable {start owners : List Demand} {made : List Demand} {collision : Collision}

/-- The demands registered so far stand before those at the start, and no identifier is demanded
twice. -/
def Registered (start made owners : List Demand) : Prop :=
  owners = made.reverse ++ start ∧ (owners.map Prod.fst).Nodup

theorem registered_nil (h : (start.map Prod.fst).Nodup) : Registered start [] start := ⟨rfl, h⟩

theorem Registered.register {demand : Demand} {next : List Demand}
    (h : Registered start made owners) (hnext : register owners demand = .ok next) :
    Registered start (made ++ [demand]) next := by
  obtain ⟨hnew, rfl⟩ := register_eq_ok_iff.mp hnext
  refine ⟨?_, List.nodup_cons.mpr ⟨hnew, h.2⟩⟩
  rw [h.1, List.reverse_append, List.reverse_singleton, List.singleton_append, List.cons_append]

theorem Registered.nodup (h : Registered start made owners) :
    ((start ++ made).map Prod.fst).Nodup := by
  obtain ⟨rfl, hnodup⟩ := h
  refine (List.Perm.nodup_iff (List.Perm.map Prod.fst ?_)).mp hnodup
  exact (made.reverse_perm.append_right start).trans List.perm_append_comm

theorem registered_of_foldlM (hstart : (start.map Prod.fst).Nodup)
    (h : made.foldlM register start = .ok owners) :
    Registered start made owners := by
  have hrun := foldlM_invariant (Registered start) (registered_nil hstart) made
    fun _ _ _ _ _ hbefore hnext ↦ hbefore.register hnext
  rwa [h] at hrun

/-- A registration fails at the first demand on an identifier that is demanded already. -/
theorem exists_of_foldlM_eq_error (hstart : (start.map Prod.fst).Nodup)
    (h : made.foldlM register start = .error collision) : ∃ before demand after owners,
      made = before ++ demand :: after ∧ Registered start before owners ∧
        register owners demand = .error collision := by
  have hrun := foldlM_invariant (Registered start) (registered_nil hstart) made
    fun _ _ _ _ _ hbefore hnext ↦ hbefore.register hnext
  rwa [h] at hrun

end Run

/-! ### The shared interface -/

variable {scope : Scope} {interface : Interface} {collision : Collision}

/-- An interface is made if all identifiers are different. -/
theorem nodup_identifiers_of_typesInterface (h : typesInterface scope = .ok interface) :
    (identifiers scope).Nodup ∧
      interface.types = ⟨"bytes", .synonym .octets⟩ :: scope.types.flatMap typeDefs := by
  obtain ⟨⟨⟩, hchecked, hinterface⟩ := bind_eq_ok_iff.mp h
  cases hinterface
  rw [checkTypes_eq_foldlM] at hchecked
  obtain ⟨owners, hrun, -⟩ := bind_eq_ok_iff.mp hchecked
  refine ⟨?_, rfl⟩
  rw [← map_fst_demands]
  exact (registered_of_foldlM (by simp) hrun).nodup

/-- What a collision tells: of all demands before the newcomer's none repeats another, and one of
them, made by the owner, has the identifier of the newcomer's. -/
theorem exists_of_typesInterface_eq_error (h : typesInterface scope = .error collision) :
    ∃ before after, demands scope = before ++ (collision.identifier, collision.newcomer) :: after ∧
      (before.map Prod.fst).Nodup ∧ (collision.identifier, collision.owner) ∈ before := by
  rcases bind_eq_error_iff.mp h with hchecked | ⟨⟨⟩, -, hinterface⟩
  · rw [checkTypes_eq_foldlM] at hchecked
    rcases bind_eq_error_iff.mp hchecked with hrun | ⟨owners, -, hdone⟩
    · obtain ⟨before, demand, after, owners, hdemands, hbefore, hrefused⟩ :=
        exists_of_foldlM_eq_error (by simp) hrun
      obtain ⟨howner, hcollision⟩ := register_eq_error_iff.mp hrefused
      refine ⟨("bytes", "bytes") :: before, after, ?_, hbefore.nodup, ?_⟩
      · rw [demands, hdemands, hcollision, List.cons_append]
      · obtain ⟨first, last, hsplit, -⟩ := List.lookup_eq_some_iff.mp howner
        have hmem : (demand.1, collision.owner) ∈ owners := by simp [hsplit]
        rw [hcollision]
        simpa [hbefore.1, or_comm] using hmem
    · cases hdone
  · cases hinterface

/-- A collision repeats an identifier. -/
theorem not_nodup_identifiers_of_collision (h : typesInterface scope = .error collision) :
    ¬ (identifiers scope).Nodup := by
  obtain ⟨before, after, hdemands, -, howner⟩ := exists_of_typesInterface_eq_error h
  rw [← map_fst_demands, hdemands, List.map_append, List.map_cons]
  intro hnodup
  exact (List.nodup_append.mp hnodup).2.2 _ (List.mem_map_of_mem howner) _ List.mem_cons_self rfl

/-- The interface of the types in a sealed scope is refused if and only if two of the identifiers
coincide, and then the collision tells the first demand that repeats another. If it is made, it
holds the definition of octet strings and behind it those of all types, in the order of the types'
names and each once. -/
theorem typesInterface_exact (hscope : scope.Sealed) :
    ((∃ collision, typesInterface scope = .error collision) ↔ ¬ (identifiers scope).Nodup) ∧
    (∀ collision, typesInterface scope = .error collision → ∃ before after,
      demands scope = before ++ (collision.identifier, collision.newcomer) :: after ∧
        (before.map Prod.fst).Nodup ∧ (collision.identifier, collision.owner) ∈ before) ∧
    ∀ interface, typesInterface scope = .ok interface →
      interface.types = ⟨"bytes", .synonym .octets⟩ :: scope.types.flatMap typeDefs ∧
        scope.types.Pairwise (fun first second ↦ first.name < second.name) ∧
        ∀ definition ∈ interface.types, interface.types.count definition = 1 := by
  refine ⟨⟨?_, fun hrepeated ↦ ?_⟩, fun _ ↦ exists_of_typesInterface_eq_error, fun interface h ↦ ?_⟩
  · rintro ⟨collision, h⟩
    exact not_nodup_identifiers_of_collision h
  · cases h : typesInterface scope with
    | error collision => exact ⟨collision, rfl⟩
    | ok interface => exact absurd (nodup_identifiers_of_typesInterface h).1 hrepeated
  · obtain ⟨hnodup, htypes⟩ := nodup_identifiers_of_typesInterface h
    obtain ⟨self, htidy, hsealed⟩ := hscope
    have honce : (interface.types.map fun definition ↦ unmarked definition.name).Nodup := by
      rw [htypes]
      exact hnodup
    exact ⟨htypes, htidy.pairwise_lt_of_toScope hsealed, fun definition hmem ↦
      List.count_eq_one_of_mem honce.of_map hmem⟩

/-- The entries of a counter are defined under a name that a type may have as well. -/
example : typesInterface
    { types := [{ name := "hits", shape := .keyedState { key := "string", value := .u32 } },
      { name := "hits-item", shape := .named "string" }] } =
    .error { kind := "type", identifier := "hits-item", newcomer := "hits-item",
             owner := "hits" } := rfl

/-- A counter by line, whose entries and values have definitions of their own, and names that need
folding or a mark. -/
def lineScope : Scope :=
  { types := [
      { name := "hits", shape := .keyedState { key := "line-0", value := .u32 } },
      { name := "line-0", shape := .named "string" },
      { name := "type", shape := .list "line-0" }] }

theorem typesInterface_exact_lineScope : lineScope.Sealed ∧
    identifiers lineScope = ["bytes", "hits-item-value", "hits", "hits-item", "line0", "type"] ∧
    ∃ interface, typesInterface lineScope = .ok interface ∧
      interface.types.map TypeDef.name =
        ["bytes", "hits-item-value", "hits", "hits-item", "line0", "%type"] ∧
      ∀ definition ∈ interface.types, interface.types.count definition = 1 := by
  have hsealed : lineScope.Sealed :=
    Scope.sealed_of_isSettled (by decide) (by decide)
      (by simp [NamedType.IsSettled, StateValue.isResolved])
  obtain ⟨interface, h⟩ : ∃ interface, typesInterface lineScope = .ok interface := ⟨_, rfl⟩
  obtain ⟨htypes, -, honce⟩ := (typesInterface_exact hsealed).2.2 interface h
  refine ⟨hsealed, by decide, interface, h, ?_, honce⟩
  rw [htypes]
  decide

end FlowSpec.Wit
