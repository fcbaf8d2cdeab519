import FlowSpec.Proofs.State.Passes

/-!
Entries of pools and the states of steps under resolution. An entry as it is lowered (`Fresh`) that
passes both passes over its pool is settled (`Settles`): an owned state has its value, and a
reference the type of the state that it points at. Where the names of a pool are different, the
states of steps take the entries of their names (`tie`).
-/

set_option autoImplicit false

namespace FlowSpec.State

variable {lookup : String → Option Shape} {dataflow : Dataflow} {pool : List PoolState}

/-! ### What becomes of entries -/

/-- An entry as it is lowered: a state of its own is typed under its name, and a reference has a
target. -/
inductive Fresh : PoolState → Prop
  | owned (name : String) (type : KeyedState) : Fresh ⟨name, .owned (some { name, type })⟩
  | reference (name : String) (target : StateTarget) (typed : Option TypedState) :
      Fresh ⟨name, .reference (some target) typed⟩
  | system (name kind : String) : Fresh ⟨name, .system kind⟩

/-- A service of the target's name owns a state of the target's name, with this type. -/
def Owns (dataflow : Dataflow) (target : StateTarget) (typed : TypedState) : Prop :=
  ∃ owner ∈ dataflow.services, owner.name = target.service ∧
    ∃ entry ∈ owner.states, entry.name = target.state ∧ entry.source = .owned (some typed)

/-- A shape that the value of a state can have. -/
def Holdable (shape : Shape) : Prop := shape = .primitive .u32 ∨ ∃ columns, shape = .row columns

/-- What resolution makes of an entry, where references point into the second dataflow. -/
inductive Settles (lookup : String → Option Shape) (resolved : Dataflow) :
    PoolState → PoolState → Prop
  | owned {name : String} {typed settled : TypedState} (h : typed.resolve lookup = .ok settled) :
      Settles lookup resolved ⟨name, .owned (some typed)⟩ ⟨name, .owned (some settled)⟩
  | reference {name : String} {target : StateTarget} {before : Option TypedState}
      {typed : TypedState} (h : Owns resolved target typed) :
      Settles lookup resolved ⟨name, .reference (some target) before⟩
        ⟨name, .reference (some target) (some { typed with name })⟩
  | system {name kind : String} : Settles lookup resolved ⟨name, .system kind⟩ ⟨name, .system kind⟩

/-- A state of a step with the typed state of the entry that has its name. -/
def tie (pool : List PoolState) (state : StepState) : StepState :=
  { state with resolved := (pool.find? fun entry ↦ entry.name == state.name).bind PoolState.typed }

/-! ### Entries -/

variable {settled : Dataflow} {service : String} {entry middle result : PoolState}
  {found : TypedState} {target : StateTarget}

theorem exists_resolve_iff : (∃ settled, found.resolve lookup = .ok settled) ↔
    ∀ name, found.type.value = .unresolved name →
      ∀ shape, TypedState.valueShape lookup name = some shape → Holdable shape := by
  unfold TypedState.resolve Holdable
  cases hvalue : found.type.value with
  | u32 => simp
  | row columns => simp
  | unresolved name =>
    dsimp only
    cases hshape : TypedState.valueShape lookup name with
    | none => simp [hshape]
    | some shape => rcases shape with - | (_ | _) <;> simp [hshape]

theorem exists_ownedEntry_iff : (∃ middle, ownedEntry lookup service entry = .ok middle) ↔
    ∀ typed, entry.source = .owned (some typed) → ∃ settled,
      typed.resolve lookup = .ok settled := by
  unfold ownedEntry
  split
  next typed hsource =>
    rw [hsource]
    cases hsettled : typed.resolve lookup <;> simp [hsettled]
  next hother => exact iff_of_true ⟨entry, rfl⟩ fun typed hsource ↦ absurd hsource (hother typed)

theorem exists_referenceEntry_iff : (∃ result, referenceEntry dataflow service entry = .ok result) ↔
    ∀ target before, entry.source = .reference (some target) before →
      ∃ typed, ownedState? dataflow target = some typed := by
  unfold referenceEntry
  split
  next target before hsource =>
    rw [hsource]
    cases hfound : ownedState? dataflow target <;> simp [hfound]
  next hother =>
    exact iff_of_true ⟨entry, rfl⟩ fun target before hsource ↦ absurd hsource (hother target before)

/-- Settling an owned state keeps the name of the entry, what it is, and the target of a
reference. -/
theorem of_ownedEntry (h : ownedEntry lookup service entry = .ok middle) :
    middle.name = entry.name ∧
      (∀ target before, middle.source = .reference target before ↔
        entry.source = .reference target before) ∧
      (∀ typed, entry.source = .owned (some typed) → ∃ settled,
        middle.source = .owned (some settled)) ∧
      ∀ settled, middle.source = .owned (some settled) → ∃ typed,
        entry.source = .owned (some typed) := by
  unfold ownedEntry at h
  split at h
  next typed hsource =>
    split at h
    next =>
      cases h
      simp [hsource]
    next => cases h
  next =>
    cases h
    exact ⟨rfl, by simp, fun typed hsource ↦ ⟨typed, hsource⟩, fun typed hsource ↦ ⟨typed, hsource⟩⟩

/-- Following a reference keeps owned states. -/
theorem of_referenceEntry (h : referenceEntry dataflow service entry = .ok result) :
    result.name = entry.name ∧ ∀ typed, result.source = .owned typed ↔
      entry.source = .owned typed := by
  unfold referenceEntry at h
  split at h
  next target before hsource =>
    split at h
    next =>
      cases h
      simp [hsource]
    next => cases h
  next =>
    cases h
    simp

/-- A reference that is followed into one dataflow is followed alike into another that has the same
owned states. -/
theorem referenceEntry_of_same {first second : Dataflow}
    (hsame : ∀ target, ownedState? first target = ownedState? second target)
    (h : referenceEntry first service entry = .ok result) :
    referenceEntry second service entry = .ok result := by
  unfold referenceEntry at h ⊢
  split at h
  next target before hsource =>
    rw [← hsame]
    split at h
    next => exact h
    next => cases h
  next => exact h

/-- A reference finds the first state of its name in the first service of its name, if that is
owned. -/
theorem ownedState?_eq_some_iff_exists : ownedState? dataflow target = some found ↔
    ∃ owner, dataflow.service? target.service = some owner ∧
      ∃ entry, owner.state? target.state = some entry ∧ entry.source = .owned (some found) := by
  unfold ownedState?
  cases dataflow.service? target.service with
  | none => simp
  | some owner =>
    cases hentry : owner.state? target.state with
    | none => simp [hentry]
    | some entry => rcases entry with ⟨name, _ | _ | _⟩ <;> simp [hentry]

theorem owns_of_ownedState? (h : ownedState? dataflow target = some found) :
    Owns dataflow target found := by
  obtain ⟨owner, howner, entry, hentry, hsource⟩ := ownedState?_eq_some_iff_exists.mp h
  exact ⟨owner, List.mem_of_find?_eq_some howner, by simpa using List.find?_some howner, entry,
    List.mem_of_find?_eq_some hentry, by simpa using List.find?_some hentry, hsource⟩

/-- Where service names are different, and the names in every pool, the target of a reference is
what is found. -/
theorem ownedState?_eq_some_iff (hservices : (dataflow.services.map Service.name).Nodup)
    (hpools : ∀ service ∈ dataflow.services, (service.states.map PoolState.name).Nodup) :
    ownedState? dataflow target = some found ↔ Owns dataflow target found := by
  refine ⟨owns_of_ownedState?, ?_⟩
  rintro ⟨owner, hmem, hname, entry, hstate, hstateName, hsource⟩
  exact ownedState?_eq_some_iff_exists.mpr ⟨owner,
    (Text.find?_key_eq_some_iff hservices).mpr ⟨hmem, hname⟩, entry,
    (Text.find?_key_eq_some_iff (hpools owner hmem)).mpr ⟨hstate, hstateName⟩, hsource⟩

/-- An entry that passes both passes over pools is settled. -/
theorem settles_of_passes (hfresh : Fresh entry)
    (howned : ownedEntry lookup service entry = .ok middle)
    (hfollowed : referenceEntry dataflow service middle = .ok result)
    (hfound : ∀ target typed, ownedState? dataflow target = some typed →
      Owns settled target typed) :
    Settles lookup settled entry result := by
  cases hfresh with
  | owned name type =>
    simp only [ownedEntry] at howned
    cases hsettled : TypedState.resolve lookup { name, type } with
    | error cause =>
      rw [hsettled] at howned
      cases howned
    | ok settled =>
      rw [hsettled] at howned
      cases howned
      cases hfollowed
      exact .owned hsettled
  | reference name target before =>
    cases howned
    simp only [referenceEntry] at hfollowed
    cases htyped : ownedState? dataflow target with
    | none =>
      rw [htyped] at hfollowed
      cases hfollowed
    | some typed =>
      rw [htyped] at hfollowed
      cases hfollowed
      exact .reference (hfound _ _ htyped)
  | system name kind =>
    cases howned
    cases hfollowed
    exact .system

theorem Settles.name_eq (h : Settles lookup settled entry result) : result.name = entry.name := by
  cases h <;> rfl

/-- A settled entry is typed under its name. -/
theorem Settles.name_of_typed (h : Settles lookup settled entry result) (hfresh : Fresh entry)
    (hfound : result.typed = some found) : found.name = result.name := by
  cases h with
  | owned hsettled =>
    cases hfresh
    cases hfound
    exact TypedState.name_of_resolve hsettled
  | reference =>
    cases hfound
    rfl
  | system => cases hfound

theorem Settles.mono {resolved : Dataflow} (h : Settles lookup settled entry result)
    (howns : ∀ target typed, Owns settled target typed → Owns resolved target typed) :
    Settles lookup resolved entry result := by
  cases h with
  | owned hsettled => exact .owned hsettled
  | reference hreference => exact .reference (howns _ _ hreference)
  | system => exact .system

/-- A settled entry is typed unless it is the system's. -/
theorem Settles.isSome_typed_iff (h : Settles lookup settled entry result) :
    result.typed.isSome ↔ ∀ kind, entry.source ≠ .system kind := by
  cases h <;> simp [PoolState.typed]

/-! ### Steps -/

/-- The entries of a pool have different names and are typed under them. -/
structure Tidy (pool : List PoolState) : Prop where
  names : (pool.map PoolState.name).Nodup
  typed : ∀ entry ∈ pool, ∀ typed, entry.typed = some typed → typed.name = entry.name

theorem Tidy.find?_typedStates (h : Tidy pool) (name : String) :
    (typedStates pool).find? (fun typed ↦ typed.name == name) =
      (pool.find? fun entry ↦ entry.name == name).bind PoolState.typed := by
  obtain ⟨hnames, htyped⟩ := h
  induction pool with
  | nil => rfl
  | cons entry rest ih =>
    rw [List.map_cons, List.nodup_cons] at hnames
    obtain ⟨hentry, hrest⟩ := List.forall_mem_cons.mp htyped
    have ih := ih hnames.2 hrest
    by_cases hname : entry.name = name
    · have hnone : rest.find? (fun entry ↦ entry.name == name) = none := by
        rw [List.find?_eq_none]
        intro other hother hsame
        refine hnames.1 (List.mem_map.mpr ⟨other, hother, ?_⟩)
        rw [hname]
        simpa using hsame
      rw [hnone, Option.bind_none] at ih
      cases hsource : entry.typed with
      | none => simpa [typedStates, hsource, hname] using ih
      | some typed => simp [typedStates, hsource, hname, hentry typed hsource]
    · cases hsource : entry.typed with
      | none => simpa [typedStates, hsource, hname] using ih
      | some typed => simpa [typedStates, hsource, hname, hentry typed hsource] using ih

/-- A state of a step that is not resolved is found if the entry of its name is typed, and takes
that type. -/
theorem Tidy.stepState_eq_ok_iff {state tied : StepState} (h : Tidy pool)
    (hopen : state.resolved = none) :
    stepState (typedStates pool) state = .ok tied ↔
      (tie pool state).resolved.isSome ∧ tied = tie pool state := by
  rw [stepState, hopen, h.find?_typedStates, tie]
  cases (pool.find? fun entry ↦ entry.name == state.name).bind PoolState.typed <;> simp [eq_comm]

/-- The states of a step that are not resolved are all found, or there is an error. -/
theorem Tidy.resolveStepStates_spec {states : List StepState} (h : Tidy pool)
    (hopen : ∀ state ∈ states, state.resolved = none) :
    ((resolveStepStates (typedStates pool) states).2 = none → ∀ state ∈ states,
      (tie pool state).resolved.isSome) ∧
    ((∀ state ∈ states, (tie pool state).resolved.isSome) →
      resolveStepStates (typedStates pool) states = (states.map (tie pool), none)) := by
  rw [resolveStepStates_eq]
  constructor
  · intro hnone state hstate
    obtain ⟨tied, htied⟩ := snd_passUntil_eq_none_iff.mp hnone state hstate
    exact ((h.stepState_eq_ok_iff (hopen state hstate)).mp htied).1
  · intro hfound
    rw [passUntil_eq_iff, List.forall₂_map_right_iff, List.forall₂_same]
    exact fun state hstate ↦
      (h.stepState_eq_ok_iff (hopen state hstate)).mpr ⟨hfound state hstate, rfl⟩

/-- The steps of a service are tied to its pool, or there is an error. -/
theorem Tidy.resolveSteps_spec {service : Service} (h : Tidy service.states)
    (hopen : ∀ operation ∈ service.operations, ∀ state ∈ operation.step.states,
      state.resolved = none) :
    ((resolveSteps service).2 = none → ∀ operation ∈ service.operations,
      ∀ state ∈ operation.step.states, (tie service.states state).resolved.isSome) ∧
    ((∀ operation ∈ service.operations, ∀ state ∈ operation.step.states,
        (tie service.states state).resolved.isSome) →
      resolveSteps service =
        (service.mapSteps (retie fun step ↦ step.states.map (tie service.states)), none)) := by
  obtain ⟨fill, hmap, hrun⟩ := exists_fill_resolveSteps service
  rw [hrun]
  constructor
  · intro hnone operation hoperation
    obtain ⟨-, hfound⟩ := settled_of_settleEach _ _ hnone
    exact (h.resolveStepStates_spec (hopen operation hoperation)).1 (hfound operation hoperation)
  · intro htied
    have hstates (operation : Operation) (hoperation : operation ∈ service.operations) :=
      (h.resolveStepStates_spec (hopen operation hoperation)).2 (htied operation hoperation)
    have hnone := snd_settleEach_of_found (typedStates service.states) service.name
      fun operation hoperation ↦ congrArg Prod.snd (hstates operation hoperation)
    obtain ⟨hsteps, -⟩ := settled_of_settleEach _ _ hnone
    have hsame : service.operations.map (fun operation ↦
          settleStep (typedStates service.states) operation.step) =
        service.operations.map fun operation ↦
          retie (fun step ↦ step.states.map (tie service.states)) operation.operator
            operation.step := by
      refine List.map_congr_left fun operation hoperation ↦ ?_
      rw [settleStep, hstates operation hoperation, retie]
    rw [hnone, hsteps, hsame, hmap]

/-! ### Settled pools -/

variable {results : List PoolState} {state : StepState}

theorem tidy_of_settles (h : List.Forall₂ (Settles lookup settled) pool results)
    (hnames : (pool.map PoolState.name).Nodup) (hfresh : ∀ entry ∈ pool, Fresh entry) :
    Tidy results where
  names := by
    rw [Outcome.map_eq_map_of_forall₂ (f := PoolState.name) h fun _ _ ↦ Settles.name_eq]
    exact hnames
  typed result hresult typed htyped := by
    have hpairs := (List.forall₂_and_left _ _).mpr ⟨hfresh, h⟩
    obtain ⟨entry, -, hentry, hsettles⟩ := Outcome.exists_left_of_forall₂ hpairs hresult
    exact hsettles.name_of_typed hentry htyped

theorem Tidy.isSome_tie_iff (h : Tidy pool) :
    (tie pool state).resolved.isSome ↔ ∃ entry ∈ pool, entry.name = state.name ∧
      entry.typed.isSome := by
  rw [tie]
  dsimp only
  constructor
  · intro hsome
    obtain ⟨typed, htyped⟩ := Option.isSome_iff_exists.mp hsome
    obtain ⟨entry, hentry, htyped⟩ := Option.bind_eq_some_iff.mp htyped
    obtain ⟨hmem, hname⟩ := (Text.find?_key_eq_some_iff h.names).mp hentry
    exact ⟨entry, hmem, hname, Option.isSome_of_eq_some htyped⟩
  · rintro ⟨entry, hmem, hname, hsome⟩
    rw [(Text.find?_key_eq_some_iff h.names).mpr ⟨hmem, hname⟩]
    exact hsome

/-- A state of a step is found in a settled pool if the pool had an entry of its name that was not
the system's. -/
theorem isSome_tie_settled_iff (h : List.Forall₂ (Settles lookup settled) pool results)
    (htidy : Tidy results) :
    (tie results state).resolved.isSome ↔
      ∃ entry ∈ pool, entry.name = state.name ∧ ∀ kind, entry.source ≠ .system kind := by
  rw [htidy.isSome_tie_iff]
  constructor
  · rintro ⟨result, hresult, hname, hsome⟩
    obtain ⟨entry, hentry, hsettles⟩ := Outcome.exists_left_of_forall₂ h hresult
    exact ⟨entry, hentry, hsettles.name_eq.symm.trans hname, hsettles.isSome_typed_iff.mp hsome⟩
  · rintro ⟨entry, hentry, hname, hsource⟩
    obtain ⟨result, hresult, hsettles⟩ := Outcome.exists_right_of_forall₂ h hentry
    exact ⟨result, hresult, hsettles.name_eq.trans hname, hsettles.isSome_typed_iff.mpr hsource⟩

end FlowSpec.State
