import FlowSpec.Proofs.State.Pool

/-!
The resolution of states, told without its passes. A dataflow as it is lowered can be resolved
exactly if no owned state has a value that no state can hold, every reference points at an owned
state of a service that exists, and every state of a step is an owned state or a reference of the
step's service. Resolved, references have the types of the states they point at, and the states of
steps are the entries of their names. Nothing of this depends on the order of the services.
-/

set_option autoImplicit false

namespace FlowSpec.State

open Outcome

variable {lookup : String → Option Shape} {dataflow settled : Dataflow} {target : StateTarget}
  {found : TypedState}

/-! ### Dataflows before and after -/

/-- A dataflow as it is lowered. -/
structure Lowered (dataflow : Dataflow) : Prop where
  services : (dataflow.services.map Service.name).Nodup
  pools : ∀ service ∈ dataflow.services, (service.states.map PoolState.name).Nodup
  entries : ∀ service ∈ dataflow.services, ∀ entry ∈ service.states, Fresh entry
  steps : ∀ service ∈ dataflow.services, ∀ operation ∈ service.operations,
    ∀ state ∈ operation.step.states, state.resolved = none

/-- Every state of a step is an owned state or a reference of the service. -/
def Supplied (service : Service) : Prop :=
  ∀ operation ∈ service.operations, ∀ state ∈ operation.step.states,
    ∃ entry ∈ service.states, entry.name = state.name ∧ ∀ kind, entry.source ≠ .system kind

/-- All states of the dataflow can be resolved. -/
structure Resolvable (lookup : String → Option Shape) (dataflow : Dataflow) : Prop where
  values : ∀ service ∈ dataflow.services, ∀ entry ∈ service.states, ∀ typed,
    entry.source = .owned (some typed) → ∀ name, typed.type.value = .unresolved name →
      ∀ shape, TypedState.valueShape lookup name = some shape → Holdable shape
  references : ∀ service ∈ dataflow.services, ∀ entry ∈ service.states, ∀ target before,
    entry.source = .reference (some target) before → ∃ typed, Owns dataflow target typed
  steps : ∀ service ∈ dataflow.services, Supplied service

/-- What resolution makes of a service: its pool is settled, its steps are tied to the pool, and all
else stays. -/
structure Resolves (lookup : String → Option Shape) (resolved : Dataflow)
    (service result : Service) : Prop where
  pool : List.Forall₂ (Settles lookup resolved) service.states result.states
  steps : result = Service.mapSteps (retie fun step ↦ step.states.map (tie result.states))
    { service with states := result.states }
  tied : ∀ operation ∈ result.operations, ∀ state ∈ operation.step.states, state.resolved.isSome

/-! ### Dataflows -/

/-- A service whose pool has passed the settling of owned states. -/
def settleService (lookup : String → Option Shape) (service : Service) : Service :=
  { service with states := (resolveOwned lookup service.name service.states).1 }

/-- The dataflow that references point into. -/
def settleDataflow (lookup : String → Option Shape) (dataflow : Dataflow) : Dataflow :=
  { dataflow with services := dataflow.services.map (settleService lookup) }

/-- A service whose pool has passed both passes, with references into a dataflow. -/
def linkService (lookup : String → Option Shape) (settled : Dataflow) (service : Service) :
    Service :=
  { service with
    states := (resolveReferences settled service.name (settleService lookup service).states).1 }

/-- The values of all owned states of the dataflow are settled. -/
def Valued (lookup : String → Option Shape) (dataflow : Dataflow) : Prop :=
  ∀ service ∈ dataflow.services, (resolveOwned lookup service.name service.states).2 = none

/-- All references of the dataflow are followed into a dataflow. -/
def Followed (lookup : String → Option Shape) (settled dataflow : Dataflow) : Prop :=
  ∀ service ∈ dataflow.services,
    (resolveReferences settled service.name (settleService lookup service).states).2 = none

/-- No pass finds a fault. -/
structure Faultless (lookup : String → Option Shape) (dataflow : Dataflow) : Prop where
  owned : Valued lookup dataflow
  references : Followed lookup (settleDataflow lookup dataflow) dataflow
  steps : ∀ service ∈ dataflow.services,
    (resolveSteps (linkService lookup (settleDataflow lookup dataflow) service)).2 = none

theorem snd_visitServices_eq_nil_iff {change : Service → Service × Option ResolutionError}
    {services : List Service} :
    (visitServices change services).2 = [] ↔ ∀ service ∈ services, (change service).2 = none := by
  simp [visitServices, List.filterMap_eq_nil_iff]

theorem fst_visitPools_resolveOwned : (visitPools (resolveOwned lookup) dataflow.services).1 =
    (settleDataflow lookup dataflow).services :=
  fst_visitPools _ _

theorem fst_visitPools_resolveReferences : (visitPools (resolveReferences settled)
    (settleDataflow lookup dataflow).services).1 =
      dataflow.services.map (linkService lookup settled) := by
  rw [fst_visitPools, settleDataflow, List.map_map]
  rfl

theorem snd_visitPools_resolveOwned_eq_nil_iff :
    (visitPools (resolveOwned lookup) dataflow.services).2 = [] ↔ Valued lookup dataflow :=
  snd_visitServices_eq_nil_iff

theorem snd_visitPools_resolveReferences_eq_nil_iff : (visitPools (resolveReferences settled)
    (settleDataflow lookup dataflow).services).2 = [] ↔ Followed lookup settled dataflow :=
  snd_visitServices_eq_nil_iff.trans List.forall_mem_map

/-- If no pass over pools finds a fault, the services are linked and their steps resolved. -/
theorem resolveDataflow_of_followed (hvalued : Valued lookup dataflow)
    (hfollowed : Followed lookup (settleDataflow lookup dataflow) dataflow) :
    resolveDataflow lookup dataflow =
      ({ dataflow with services := dataflow.services.map fun service ↦
          (resolveSteps (linkService lookup (settleDataflow lookup dataflow) service)).1 },
        dataflow.services.filterMap fun service ↦
          (resolveSteps (linkService lookup (settleDataflow lookup dataflow) service)).2) := by
  have hdataflow : { dataflow with services := (settleDataflow lookup dataflow).services } =
      settleDataflow lookup dataflow := rfl
  unfold resolveDataflow
  dsimp only
  rw [fst_visitPools_resolveOwned, hdataflow, fst_visitPools_resolveReferences,
    snd_visitPools_resolveOwned_eq_nil_iff.mpr hvalued,
    snd_visitPools_resolveReferences_eq_nil_iff.mpr hfollowed, List.isEmpty_nil, Bool.and_self,
    if_pos rfl, visitServices, List.map_map, List.map_map, List.filterMap_map, List.filterMap_map]
  rfl

theorem followed_of_resolveDataflow (h : (resolveDataflow lookup dataflow).2 = []) :
    Valued lookup dataflow ∧ Followed lookup (settleDataflow lookup dataflow) dataflow := by
  have hdataflow : { dataflow with services := (settleDataflow lookup dataflow).services } =
      settleDataflow lookup dataflow := rfl
  rw [← snd_visitPools_resolveOwned_eq_nil_iff, ← snd_visitPools_resolveReferences_eq_nil_iff]
  unfold resolveDataflow at h
  dsimp only at h
  rw [fst_visitPools_resolveOwned, hdataflow] at h
  split_ifs at h with hpools
  · rwa [Bool.and_eq_true, List.isEmpty_iff, List.isEmpty_iff] at hpools
  · exact List.append_eq_nil_iff.mp h

/-- Resolution ends without errors exactly if no pass finds a fault; then the services are linked
and their steps resolved. -/
theorem resolveDataflow_spec (lookup : String → Option Shape) (dataflow : Dataflow) :
    ((resolveDataflow lookup dataflow).2 = [] → Faultless lookup dataflow) ∧
    (Faultless lookup dataflow → resolveDataflow lookup dataflow =
      ({ dataflow with services := dataflow.services.map fun service ↦
        (resolveSteps (linkService lookup (settleDataflow lookup dataflow) service)).1 }, [])) := by
  constructor
  · intro h
    obtain ⟨hvalued, hfollowed⟩ := followed_of_resolveDataflow h
    rw [resolveDataflow_of_followed hvalued hfollowed] at h
    exact ⟨hvalued, hfollowed, List.filterMap_eq_nil_iff.mp h⟩
  · rintro ⟨hvalued, hfollowed, hsteps⟩
    rw [resolveDataflow_of_followed hvalued hfollowed, List.filterMap_eq_nil_iff.mpr hsteps]

/-! ### Pools of a lowered dataflow -/

variable {source : Service}

theorem valued_iff :
    Valued lookup dataflow ↔ ∀ service ∈ dataflow.services, ∀ entry ∈ service.states, ∀ typed,
      entry.source = .owned (some typed) → ∀ name, typed.type.value = .unresolved name →
        ∀ shape, TypedState.valueShape lookup name = some shape → Holdable shape := by
  refine forall₂_congr fun service _ ↦ ?_
  rw [resolveOwned_eq, snd_passUntil_eq_none_iff]
  refine forall₂_congr fun entry _ ↦ ?_
  rw [exists_ownedEntry_iff]
  exact forall₂_congr fun typed _ ↦ exists_resolve_iff

theorem Valued.forall₂ (h : Valued lookup dataflow) (hsource : source ∈ dataflow.services) :
    List.Forall₂ (fun entry middle ↦ ownedEntry lookup source.name entry = .ok middle) source.states
      (settleService lookup source).states := by
  rw [settleService, ← passUntil_eq_iff, ← resolveOwned_eq]
  exact Prod.ext rfl (h source hsource)

/-- Settling keeps which targets are owned. -/
theorem Valued.exists_owns_iff (h : Valued lookup dataflow) :
    (∃ typed, Owns (settleDataflow lookup dataflow) target typed) ↔
      ∃ typed, Owns dataflow target typed := by
  constructor
  · rintro ⟨typed, owner, howner, hname, entry, hentry, hstate, hsource⟩
    obtain ⟨before, hbefore, rfl⟩ := List.mem_map.mp howner
    obtain ⟨old, hold, hpass⟩ := exists_left_of_forall₂ (h.forall₂ hbefore) hentry
    obtain ⟨hsame, -, -, hback⟩ := of_ownedEntry hpass
    obtain ⟨typed, htyped⟩ := hback typed hsource
    exact ⟨typed, before, hbefore, hname, old, hold, hsame.symm.trans hstate, htyped⟩
  · rintro ⟨typed, owner, howner, hname, entry, hentry, hstate, hsource⟩
    obtain ⟨next, hnext, hpass⟩ := exists_right_of_forall₂ (h.forall₂ howner) hentry
    obtain ⟨hsame, -, hforth, -⟩ := of_ownedEntry hpass
    obtain ⟨typed, htyped⟩ := hforth typed hsource
    exact ⟨typed, settleService lookup owner, List.mem_map_of_mem howner, hname, next, hnext,
      hsame.trans hstate, htyped⟩

/-- In a lowered dataflow whose values are settled, a reference finds the state that it points
at. -/
theorem Lowered.ownedState?_settled_iff (h : Lowered dataflow) (hvalued : Valued lookup dataflow) :
    ownedState? (settleDataflow lookup dataflow) target = some found ↔
      Owns (settleDataflow lookup dataflow) target found := by
  apply ownedState?_eq_some_iff
  · rw [settleDataflow, List.map_map]
    exact h.services
  · rw [settleDataflow, List.forall_mem_map]
    intro service hservice
    have hnames := map_eq_map_of_forall₂ (f := PoolState.name) (g := PoolState.name)
      (hvalued.forall₂ hservice) fun _ _ hentry ↦ (of_ownedEntry hentry).1
    rw [hnames]
    exact h.pools service hservice

theorem Lowered.followed_iff (h : Lowered dataflow) (hvalued : Valued lookup dataflow) :
    Followed lookup (settleDataflow lookup dataflow) dataflow ↔
      ∀ service ∈ dataflow.services, ∀ entry ∈ service.states, ∀ target before,
        entry.source = .reference (some target) before → ∃ typed, Owns dataflow target typed := by
  refine forall₂_congr fun service hservice ↦ ?_
  have hpassed := hvalued.forall₂ hservice
  rw [resolveReferences_eq, snd_passUntil_eq_none_iff]
  simp only [exists_referenceEntry_iff, h.ownedState?_settled_iff hvalued, hvalued.exists_owns_iff]
  constructor
  · intro hall entry hentry target before hsource
    obtain ⟨next, hnext, hpass⟩ := exists_right_of_forall₂ hpassed hentry
    exact hall next hnext target before (((of_ownedEntry hpass).2.1 _ _).mpr hsource)
  · intro hall next hnext target before hsource
    obtain ⟨entry, hentry, hpass⟩ := exists_left_of_forall₂ hpassed hnext
    exact hall entry hentry target before (((of_ownedEntry hpass).2.1 _ _).mp hsource)

theorem Followed.forall₂ (h : Followed lookup settled dataflow)
    (hsource : source ∈ dataflow.services) :
    List.Forall₂ (fun middle result ↦ referenceEntry settled source.name middle = .ok result)
      (settleService lookup source).states (linkService lookup settled source).states := by
  rw [linkService, ← passUntil_eq_iff, ← resolveReferences_eq]
  exact Prod.ext rfl (h source hsource)

/-- Fresh entries that pass both passes over pools are settled. -/
theorem Valued.settles (h : Valued lookup dataflow)
    (hfollowed : Followed lookup (settleDataflow lookup dataflow) dataflow)
    (hsource : source ∈ dataflow.services) (hfresh : ∀ entry ∈ source.states, Fresh entry) :
    List.Forall₂ (Settles lookup (settleDataflow lookup dataflow)) source.states
      (linkService lookup (settleDataflow lookup dataflow) source).states := by
  refine forall₂_comp (h.forall₂ hsource) (hfollowed.forall₂ hsource) ?_
  intro entry hentry middle result howned hreference
  exact settles_of_passes (hfresh entry hentry) howned hreference fun _ _ ↦ owns_of_ownedState?

/-! ### Resolved services -/

/-- A service that is linked and whose steps are tied to its pool. -/
def resolveService (lookup : String → Option Shape) (settled : Dataflow) (service : Service) :
    Service :=
  Service.mapSteps (retie fun step ↦
      step.states.map (tie (linkService lookup settled service).states))
    (linkService lookup settled service)

/-- The dataflow with all services resolved. -/
def resolvedDataflow (lookup : String → Option Shape) (dataflow : Dataflow) : Dataflow :=
  { dataflow with
    services := dataflow.services.map (resolveService lookup (settleDataflow lookup dataflow)) }

/-- The steps of a service whose pool is settled are resolved exactly if the service supplies them
with states. -/
theorem Lowered.resolveSteps_linkService (h : Lowered dataflow)
    (hsource : source ∈ dataflow.services)
    (hsettles : List.Forall₂ (Settles lookup settled) source.states
      (linkService lookup settled source).states) :
    ((resolveSteps (linkService lookup settled source)).2 = none ↔ Supplied source) ∧
    (Supplied source → (resolveSteps (linkService lookup settled source)).1 =
      resolveService lookup settled source ∧
      ∀ operation ∈ (resolveService lookup settled source).operations,
        ∀ state ∈ operation.step.states, state.resolved.isSome) := by
  have htidy := tidy_of_settles hsettles (h.pools source hsource) (h.entries source hsource)
  obtain ⟨hfound, hresult⟩ := htidy.resolveSteps_spec (h.steps source hsource)
  have hsupplied : Supplied source ↔ ∀ operation ∈ source.operations,
      ∀ state ∈ operation.step.states,
      (tie (linkService lookup settled source).states state).resolved.isSome :=
    forall₂_congr fun operation _ ↦ forall₂_congr fun state _ ↦
      (isSome_tie_settled_iff hsettles htidy).symm
  rw [hsupplied]
  refine ⟨⟨hfound, fun htied ↦ congrArg Prod.snd (hresult htied)⟩,
    fun htied ↦ ⟨congrArg Prod.fst (hresult htied), ?_⟩⟩
  rw [resolveService, Service.operations_mapSteps, List.forall_mem_map]
  intro operation hoperation
  exact List.forall_mem_map.mpr (htied operation hoperation)

/-- No pass over a lowered dataflow finds a fault exactly if all its states can be resolved. -/
theorem Lowered.faultless_iff (h : Lowered dataflow) :
    Faultless lookup dataflow ↔ Resolvable lookup dataflow := by
  constructor
  · rintro ⟨hvalued, hfollowed, hsteps⟩
    refine ⟨valued_iff.mp hvalued, (h.followed_iff hvalued).mp hfollowed, fun service hservice ↦ ?_⟩
    have hsettles := hvalued.settles hfollowed hservice (h.entries service hservice)
    exact (h.resolveSteps_linkService hservice hsettles).1.mp (hsteps service hservice)
  · rintro ⟨hvalues, hreferences, hsteps⟩
    have hvalued := valued_iff.mpr hvalues
    have hfollowed := (h.followed_iff hvalued).mpr hreferences
    refine ⟨hvalued, hfollowed, fun service hservice ↦ ?_⟩
    have hsettles := hvalued.settles hfollowed hservice (h.entries service hservice)
    exact (h.resolveSteps_linkService hservice hsettles).1.mpr (hsteps service hservice)

/-- The resolution of a lowered dataflow that can be resolved. -/
theorem Lowered.resolveDataflow_eq (h : Lowered dataflow) (hfaultless : Faultless lookup dataflow) :
    resolveDataflow lookup dataflow = (resolvedDataflow lookup dataflow, []) := by
  have hsupplied := (h.faultless_iff.mp hfaultless).steps
  rw [(resolveDataflow_spec lookup dataflow).2 hfaultless]
  have hservices : (dataflow.services.map fun service ↦
      (resolveSteps (linkService lookup (settleDataflow lookup dataflow) service)).1) =
        dataflow.services.map (resolveService lookup (settleDataflow lookup dataflow)) := by
    refine List.map_congr_left fun service hservice ↦ ?_
    have hsettles :=
      hfaultless.owned.settles hfaultless.references hservice (h.entries service hservice)
    exact ((h.resolveSteps_linkService hservice hsettles).2 (hsupplied service hservice)).1
  rw [hservices, resolvedDataflow]

/-- What is owned when references are followed is owned in the end. -/
theorem owns_of_owns_settled {typed : TypedState}
    (hfollowed : Followed lookup (settleDataflow lookup dataflow) dataflow)
    (h : Owns (settleDataflow lookup dataflow) target typed) :
    Owns (resolvedDataflow lookup dataflow) target typed := by
  obtain ⟨owner, howner, hname, middle, hmiddle, hstate, htyped⟩ := h
  obtain ⟨service, hservice, rfl⟩ := List.mem_map.mp howner
  obtain ⟨result, hresult, hpass⟩ := exists_right_of_forall₂ (hfollowed.forall₂ hservice) hmiddle
  obtain ⟨hsame, howned⟩ := of_referenceEntry hpass
  exact ⟨_, List.mem_map_of_mem hservice, hname, result, hresult, hsame.trans hstate,
    (howned _).mpr htyped⟩

/-- Every service of a lowered dataflow without faults is resolved. -/
theorem Lowered.resolves (h : Lowered dataflow) (hfaultless : Faultless lookup dataflow)
    (hsource : source ∈ dataflow.services) :
    Resolves lookup (resolvedDataflow lookup dataflow) source
      (resolveService lookup (settleDataflow lookup dataflow) source) := by
  have hsupplied := (h.faultless_iff.mp hfaultless).steps source hsource
  have hsettles := hfaultless.owned.settles hfaultless.references hsource (h.entries source hsource)
  refine ⟨?_, rfl, ((h.resolveSteps_linkService hsource hsettles).2 hsupplied).2⟩
  exact hsettles.imp fun entry result hentry ↦
    hentry.mono fun target typed ↦ owns_of_owns_settled hfaultless.references

/-! ### The order of services -/

section Order

variable {services : List Service}

theorem Lowered.perm (h : Lowered dataflow) (hperm : services.Perm dataflow.services) :
    Lowered { dataflow with services } where
  services := (hperm.map Service.name).nodup_iff.mpr h.services
  pools service hservice := h.pools service (hperm.mem_iff.mp hservice)
  entries service hservice := h.entries service (hperm.mem_iff.mp hservice)
  steps service hservice := h.steps service (hperm.mem_iff.mp hservice)

theorem owns_perm_iff {first second : Dataflow} (h : first.services.Perm second.services)
    {target : StateTarget} {typed : TypedState} : Owns first target typed ↔
      Owns second target typed := by
  simp only [Owns, h.mem_iff]

theorem Resolvable.perm (h : Resolvable lookup dataflow) (hperm : services.Perm dataflow.services) :
    Resolvable lookup { dataflow with services } where
  values service hservice := h.values service (hperm.mem_iff.mp hservice)
  references service hservice entry hentry target before hsource := by
    obtain ⟨typed, htyped⟩ :=
      h.references service (hperm.mem_iff.mp hservice) entry hentry target before hsource
    exact ⟨typed, (owns_perm_iff hperm).mpr htyped⟩
  steps service hservice := h.steps service (hperm.mem_iff.mp hservice)

/-- What a service is resolved to does not depend on the order of the services. -/
theorem Lowered.resolveService_perm (h : Lowered dataflow) (hfaultless : Faultless lookup dataflow)
    (hperm : services.Perm dataflow.services) (hsource : source ∈ dataflow.services) :
    resolveService lookup (settleDataflow lookup { dataflow with services }) source =
      resolveService lookup (settleDataflow lookup dataflow) source := by
  have hvalued : Valued lookup { dataflow with services } :=
    fun service hservice ↦ hfaultless.owned service (hperm.mem_iff.mp hservice)
  have hsame (target : StateTarget) : ownedState? (settleDataflow lookup dataflow) target =
      ownedState? (settleDataflow lookup { dataflow with services }) target := by
    ext typed
    rw [h.ownedState?_settled_iff hfaultless.owned, (h.perm hperm).ownedState?_settled_iff hvalued]
    exact owns_perm_iff (hperm.map _).symm
  have hpass := (hfaultless.references.forall₂ hsource).imp fun entry result hentry ↦
    referenceEntry_of_same hsame hentry
  have hlink : linkService lookup (settleDataflow lookup { dataflow with services }) source =
      linkService lookup (settleDataflow lookup dataflow) source := by
    rw [linkService, resolveReferences_eq, passUntil_eq_iff.mpr hpass]
    rfl
  rw [resolveService, hlink, resolveService]

end Order

/-- A lowered dataflow is resolved without errors exactly if its owned states have values that
states can hold, its references point at owned states, and the states of its steps are owned states
or references of their services. Then every service is resolved, and each to the same service
whatever the order of the services. -/
theorem resolveDataflow_exact (lookup : String → Option Shape) (dataflow : Dataflow)
    (h : Lowered dataflow) :
    ((resolveDataflow lookup dataflow).2 = [] ↔ Resolvable lookup dataflow) ∧
    (Resolvable lookup dataflow →
      List.Forall₂ (Resolves lookup (resolveDataflow lookup dataflow).1) dataflow.services
        (resolveDataflow lookup dataflow).1.services ∧
      ∃ resolve : Service → Service, ∀ services, services.Perm dataflow.services →
        resolveDataflow lookup { dataflow with services } =
          ({ dataflow with services := services.map resolve }, [])) := by
  refine ⟨⟨fun hnone ↦ h.faultless_iff.mp ((resolveDataflow_spec lookup dataflow).1 hnone),
      fun hresolvable ↦ ?_⟩,
    fun hresolvable ↦ ?_⟩
  · rw [h.resolveDataflow_eq (h.faultless_iff.mpr hresolvable)]
  · have hfaultless := h.faultless_iff.mpr hresolvable
    refine ⟨?_, resolveService lookup (settleDataflow lookup dataflow), fun services hperm ↦ ?_⟩
    · rw [h.resolveDataflow_eq hfaultless]
      refine List.forall₂_map_right_iff.mpr (List.forall₂_same.mpr ?_)
      exact fun service ↦ h.resolves hfaultless
    · have hpermuted := h.perm hperm
      rw [hpermuted.resolveDataflow_eq (hpermuted.faultless_iff.mpr (hresolvable.perm hperm)),
        resolvedDataflow]
      have hservices :
          services.map (resolveService lookup (settleDataflow lookup { dataflow with services })) =
            services.map (resolveService lookup (settleDataflow lookup dataflow)) :=
        List.map_congr_left fun service hservice ↦
          h.resolveService_perm hfaultless hperm (hperm.mem_iff.mp hservice)
      rw [hservices]

/-- A dataflow whose first service points at a state that its second service owns. -/
def restocking : Dataflow where
  apiVersion := "0.5.0"
  header := { owner := "shop", name := "restocking", version := "0.1.0" }
  services :=
    [{ name := "orders"
       transforms := [⟨.map, { uses := "reserve", states := [{ name := "stock" }] }⟩]
       states :=
         [⟨"clock", .system "time"⟩, ⟨"stock", .reference (some ⟨"shelves", "level"⟩) none⟩] },
     { name := "shelves"
       partition := some
         { assignKey := { uses := "shelf" }
           updateState := some { uses := "count", states := [{ name := "level" }] } }
       states := [⟨"level", .owned (some ⟨"level", ⟨"string", .unresolved "quantity"⟩⟩)⟩] }]

/-- The only type that is declared. -/
def quantity (name : String) : Option Shape :=
  if name = "quantity" then some (.primitive .u32) else none

theorem resolveDataflow_exact_restocking :
    Lowered restocking ∧ (resolveDataflow quantity restocking).2 = [] ∧
      Resolvable quantity restocking ∧
      List.Forall₂ (Resolves quantity (resolveDataflow quantity restocking).1)
        restocking.services (resolveDataflow quantity restocking).1.services := by
  have hlowered : Lowered restocking := by
    refine ⟨by decide, by decide, ?_, by decide⟩
    simp only [restocking, List.forall_mem_cons, List.not_mem_nil, false_implies,
      implies_true, and_true]
    exact ⟨⟨.system _ _, .reference _ _ _⟩, .owned _ _⟩
  have hnone : (resolveDataflow quantity restocking).2 = [] := by decide
  obtain ⟨hexact, hresolved⟩ := resolveDataflow_exact quantity restocking hlowered
  exact ⟨hlowered, hnone, hexact.mp hnone, (hresolved (hexact.mp hnone)).1⟩

end FlowSpec.State
