import FlowSpec.Proofs.Package.Merge
import FlowSpec.Proofs.State.Pool

/-!
States join the pool of a service one after the other. Each is there already, is put behind the end
of the pool, or clashes with what the pool holds by then, and the first that clashes ends the run
(`inject_cons`, `inject_cases`). So a run keeps the pool that it starts from, names every state
once, and fails exactly if a state clashes with the pool or with a state that is listed before it.
-/

set_option autoImplicit false

namespace FlowSpec.State

variable {service : String} {pool before middle after next : List PoolState}
  {states first second earlier later : List StepState} {state : StepState} {typed : TypedState}
  {entry : PoolState}

/-! ### One state -/

/-- The entry of a pool that an imported state becomes. -/
def ownEntry (typed : TypedState) : PoolState :=
  { name := typed.name, source := .owned (some typed) }

/-- The state is not resolved, or something else than its definition is in the pool under its
name. -/
def Clashes (pool : List PoolState) (state : StepState) : Prop :=
  state.resolved = none ∨ ∃ typed, state.resolved = some typed ∧
    ∃ entry ∈ pool, entry.name = typed.name ∧ entry.source ≠ .owned (some typed)

theorem Clashes.mono (h : Clashes before state) (hsubset : before ⊆ after) :
    Clashes after state := by
  refine h.imp id ?_
  rintro ⟨typed, hresolved, entry, hentry, hclash⟩
  exact ⟨typed, hresolved, entry, hsubset hentry, hclash⟩

/-- What becomes of a pool that a state joins: it holds the state already, or takes it in as its
last entry. -/
inductive Takes (pool : List PoolState) (typed : TypedState) : List PoolState → Prop
  | known (hfound : (pool.find? fun entry ↦ entry.name == typed.name) = some (ownEntry typed)) :
      Takes pool typed pool
  | new (hnew : (pool.find? fun entry ↦ entry.name == typed.name) = none) :
      Takes pool typed (pool ++ [ownEntry typed])

/-- Why a state cannot join a pool: it is not resolved, or its name stands for something else
there. -/
inductive Refuses (service : String) (pool : List PoolState) (state : StepState) :
    ResolutionError → Prop
  | unresolved (hresolved : state.resolved = none) :
    Refuses service pool state { kind := .notResolved, service, state := state.name }
  | taken {typed : TypedState} {entry : PoolState} (hresolved : state.resolved = some typed)
    (hfound : (pool.find? fun entry ↦ entry.name == typed.name) = some entry)
    (hsource : entry.source ≠ .owned (some typed)) :
    Refuses service pool state { kind := .conflict, service, state := typed.name }

theorem Refuses.clashes {error : ResolutionError} (h : Refuses service pool state error) :
    Clashes pool state := by
  cases h with
  | unresolved hresolved => exact .inl hresolved
  | @taken typed entry hresolved hfound hsource =>
    have hname : entry.name = typed.name := by simpa using List.find?_some hfound
    exact .inr ⟨typed, hresolved, entry, List.mem_of_find?_eq_some hfound, hname, hsource⟩

/-- The pool refuses a state, which ends the run, or takes it, and the run goes on. -/
theorem inject_cons (service : String) (pool : List PoolState) (state : StepState) :
    (∃ error, Refuses service pool state error ∧ ∀ rest,
      inject service pool (state :: rest) = (pool, some error)) ∨
      ∃ typed next, state.resolved = some typed ∧ Takes pool typed next ∧
        ∀ rest, inject service pool (state :: rest) = inject service next rest := by
  cases hresolved : state.resolved with
  | none => exact .inl ⟨_, .unresolved hresolved, fun rest ↦ by rw [inject, hresolved]⟩
  | some typed =>
    cases hfound : pool.find? fun entry ↦ entry.name == typed.name with
    | none =>
      refine .inr ⟨typed, _, rfl, .new hfound, fun rest ↦ ?_⟩
      simp only [inject, hresolved, hfound, ownEntry]
    | some entry =>
      by_cases hsource : entry.source = .owned (some typed)
      · have hname : entry.name = typed.name := by simpa using List.find?_some hfound
        have hentry : entry = ownEntry typed := by rw [ownEntry, ← hname, ← hsource]
        refine .inr ⟨typed, pool, rfl, .known (hentry ▸ hfound), fun rest ↦ ?_⟩
        simp only [inject, hresolved, hfound, hsource, if_true]
      · refine .inl ⟨_, .taken hresolved hfound hsource, fun rest ↦ ?_⟩
        simp only [inject, hresolved, hfound, hsource, if_false]

/-- A run reads all states, or it ends at one that clashes with the pool that the states before it
have joined. -/
theorem inject_cases (service : String) (pool : List PoolState) (states : List StepState) :
    (∃ after, inject service pool states = (after, none)) ∨
      ∃ earlier state later after error, states = earlier ++ state :: later ∧
        inject service pool earlier = (after, none) ∧ Clashes after state ∧
        inject service pool states = (after, some error) := by
  induction states generalizing pool with
  | nil => exact .inl ⟨pool, rfl⟩
  | cons state rest ih =>
    rcases inject_cons service pool state with ⟨error, hrefuses, hrun⟩ | ⟨typed, next, -, -, hrun⟩
    · exact .inr ⟨[], state, rest, pool, error, rfl, rfl, hrefuses.clashes, hrun rest⟩
    · rw [hrun]
      rcases ih next with hread |
        ⟨earlier, other, later, after, error, rfl, hearlier, hclashes, hend⟩
      · exact .inl hread
      · exact .inr ⟨state :: earlier, other, later, after, error, rfl,
          (hrun earlier).trans hearlier, hclashes, hend⟩

/-- What holds of a pool without states, and of a pool that takes a state if it holds of the rest of
the run, holds of every run that reads all states. -/
theorem inject_induction {motive : List PoolState → List StepState → Prop} (hnil : motive after [])
    (hcons : ∀ {pool next state typed rest}, state.resolved = some typed → Takes pool typed next →
      motive next rest → motive pool (state :: rest))
    (h : inject service pool states = (after, none)) : motive pool states := by
  induction states generalizing pool with
  | nil =>
    cases h
    exact hnil
  | cons state rest ih =>
    rcases inject_cons service pool state with ⟨error, -, hrun⟩ |
      ⟨typed, next, hresolved, htakes, hrun⟩
    · rw [hrun] at h
      cases h
    · exact hcons hresolved htakes (ih ((hrun rest).symm.trans h))

/-! ### States that have joined -/

/-- What a pool becomes when states join it. -/
structure Joined (before : List PoolState) (states : List StepState) (after : List PoolState) :
    Prop where
  grows : before <+: after
  added : ∀ entry ∈ after, entry ∈ before ∨ ∃ typed, entry = ownEntry typed
  found : ∀ state ∈ states, ∃ typed, state.resolved = some typed ∧
    (after.find? fun entry ↦ entry.name == typed.name) = some (ownEntry typed)

theorem Joined.refl (pool : List PoolState) : Joined pool [] pool where
  grows := List.prefix_rfl
  added := fun _ hentry ↦ Or.inl hentry
  found := by simp

theorem Joined.trans (h : Joined before first middle) (h' : Joined middle second after) :
    Joined before (first ++ second) after where
  grows := h.grows.trans h'.grows
  added := fun entry hentry ↦ (h'.added entry hentry).elim (h.added entry) Or.inr
  found := by
    refine List.forall_mem_append.mpr ⟨fun state hstate ↦ ?_, h'.found⟩
    obtain ⟨typed, hresolved, hfound⟩ := h.found state hstate
    obtain ⟨rest, rfl⟩ := h'.grows
    exact ⟨typed, hresolved, by rw [List.find?_append, hfound, Option.some_or]⟩

theorem Joined.fresh (h : Joined before states after) (hfresh : ∀ entry ∈ before, Fresh entry) :
    ∀ entry ∈ after, Fresh entry := by
  intro entry hentry
  rcases h.added entry hentry with hold | ⟨typed, rfl⟩
  · exact hfresh entry hold
  · exact .owned typed.name typed.type

theorem Takes.joined (h : Takes pool typed next) (hresolved : state.resolved = some typed) :
    Joined pool [state] next := by
  cases h with
  | known hfound =>
    exact ⟨List.prefix_rfl, fun _ hentry ↦ .inl hentry,
      List.forall_mem_singleton.mpr ⟨typed, hresolved, hfound⟩⟩
  | new hnew =>
    refine ⟨List.prefix_append _ _, fun entry hentry ↦ ?_,
      List.forall_mem_singleton.mpr ⟨typed, hresolved, ?_⟩⟩
    · rcases List.mem_append.mp hentry with hentry | hentry
      · exact .inl hentry
      · exact .inr ⟨typed, List.mem_singleton.mp hentry⟩
    · rw [List.find?_append, hnew, Option.none_or]
      simp [ownEntry]

/-- A state that conflicts with the pool is not the entry that the pool has under its name. -/
theorem conflict_of_inject {error : ResolutionError}
    (h : (inject service pool states).2 = some error) (hkind : error.kind = .conflict)
    (hentry : (pool.find? fun entry ↦ entry.name == error.state) = some entry) :
    ∃ state ∈ states, ∃ typed, state.resolved = some typed ∧ typed.name = error.state ∧
      entry.source ≠ .owned (some typed) := by
  induction states generalizing pool with
  | nil => cases h
  | cons state rest ih =>
    rcases inject_cons service pool state with ⟨cause, hrefuses, hrun⟩ |
      ⟨typed, next, hresolved, htakes, hrun⟩
    · rw [hrun] at h
      obtain rfl : cause = error := Option.some.inj h
      cases hrefuses with
      | unresolved => cases hkind
      | @taken typed found hresolved hfound hsource =>
        obtain rfl : found = entry := Option.some.inj (hfound.symm.trans hentry)
        exact ⟨state, List.mem_cons_self, typed, hresolved, rfl, hsource⟩
    · -- the entry is still the one that is found, since pools only grow at their end
      obtain ⟨added, rfl⟩ := (htakes.joined hresolved).grows
      rw [hrun] at h
      obtain ⟨other, hother, hconflict⟩ := ih h (by rw [List.find?_append, hentry, Option.some_or])
      exact ⟨other, List.mem_cons_of_mem state hother, hconflict⟩

theorem joined_of_inject (h : inject service pool states = (after, none)) :
    Joined pool states after :=
  inject_induction (motive := fun pool states ↦ Joined pool states after) (.refl after)
    (fun hresolved htakes hrest ↦ (htakes.joined hresolved).trans hrest) h

/-! ### Names of a pool -/

/-- The names of the states, as far as these are resolved. -/
def stateNames (states : List StepState) : List String :=
  states.filterMap fun state ↦ state.resolved.map TypedState.name

/-- The entries that the states become, as far as these are resolved. -/
def definitions (states : List StepState) : List PoolState :=
  states.filterMap fun state ↦ state.resolved.map ownEntry

theorem eraseDups_append_cons {names others : List String} {name : String} (h : name ∈ names) :
    (names ++ name :: others).eraseDups = (names ++ others).eraseDups := by
  rw [List.eraseDups_append, List.eraseDups_append]
  simp [List.removeAll, h]

theorem eraseDups_of_nodup {names : List String} (h : names.Nodup) : names.eraseDups = names := by
  induction names using List.reverseRecOn with
  | nil => rfl
  | append_singleton front name ih =>
    rw [List.nodup_append] at h
    obtain ⟨hfront, -, hnew⟩ := h
    have hname : name ∉ front := fun hmem ↦ hnew name hmem name (List.mem_singleton_self name) rfl
    rw [Package.eraseDups_concat, if_neg hname, ih hfront]

/-- The names that the pool has when all states have joined are the old ones and those of the
states, each once. -/
theorem map_name_of_inject (h : inject service pool states = (after, none))
    (hnodup : (pool.map PoolState.name).Nodup) :
    after.map PoolState.name = (pool.map PoolState.name ++ stateNames states).eraseDups := by
  refine inject_induction (motive := fun pool states ↦ (pool.map PoolState.name).Nodup →
    after.map PoolState.name =
    (pool.map PoolState.name ++ stateNames states).eraseDups) ?_ ?_ h hnodup
  · intro hnodup
    rw [stateNames, List.filterMap_nil, List.append_nil, eraseDups_of_nodup hnodup]
  · intro pool next state typed rest hresolved htakes ih hnodup
    have hnames : stateNames (state :: rest) = typed.name :: stateNames rest := by
      simp [stateNames, hresolved]
    rw [hnames]
    cases htakes with
    | known hfound =>
      have hmem : typed.name ∈ pool.map PoolState.name :=
        List.mem_map.mpr ⟨ownEntry typed, List.mem_of_find?_eq_some hfound, rfl⟩
      rw [ih hnodup, eraseDups_append_cons hmem]
    | new hnew =>
      have hname : typed.name ∉ pool.map PoolState.name := by simpa using hnew
      have hnext : (pool ++ [ownEntry typed]).map PoolState.name =
          pool.map PoolState.name ++ [typed.name] := by
        simp [ownEntry]
      rw [hnext, List.append_assoc] at ih
      exact ih (List.nodup_append.mpr ⟨hnodup, List.nodup_singleton _,
          fun name hmem other hother heq ↦
        hname (List.mem_singleton.mp hother ▸ heq ▸ hmem)⟩)

theorem nodup_of_inject (h : inject service pool states = (after, none))
    (hnodup : (pool.map PoolState.name).Nodup) :
    (after.map PoolState.name).Nodup := by
  rw [map_name_of_inject h hnodup]
  exact Package.nodup_eraseDups _

/-! ### Entries of a pool -/

/-- A run only puts definitions of its states behind the pool. -/
theorem exists_added_of_inject (h : inject service pool states = (after, none)) :
    ∃ added, after = pool ++ added ∧ added ⊆ definitions states := by
  refine inject_induction (motive := fun pool states ↦ ∃ added, after = pool ++ added ∧
      added ⊆ definitions states)
    ⟨[], by simp⟩ ?_ h
  rintro pool next state typed rest hresolved htakes ⟨added, rfl, hadded⟩
  have hdefinitions : definitions (state :: rest) = ownEntry typed :: definitions rest := by
    simp [definitions, hresolved]
  rw [hdefinitions]
  cases htakes with
  | known hfound => exact ⟨added, rfl, List.subset_cons_of_subset _ hadded⟩
  | new hnew => exact ⟨ownEntry typed :: added, by simp, List.cons_subset_cons _ hadded⟩

/-- What the pool held and what the states define is in the pool when all states have joined. -/
theorem Joined.subset (h : Joined pool states after) : pool ++ definitions states ⊆ after := by
  refine List.append_subset.mpr ⟨h.grows.subset, fun entry hentry ↦ ?_⟩
  obtain ⟨state, hstate, hentry⟩ := List.mem_filterMap.mp hentry
  obtain ⟨typed, hresolved, rfl⟩ := Option.map_eq_some_iff.mp hentry
  obtain ⟨other, hother, hfound⟩ := h.found state hstate
  obtain rfl : typed = other := Option.some.inj (hresolved.symm.trans hother)
  exact List.mem_of_find?_eq_some hfound

/-- States that are in the pool already change nothing. -/
theorem inject_of_found (h : ∀ state ∈ states, ∃ typed, state.resolved = some typed ∧
    (pool.find? fun entry ↦ entry.name == typed.name) = some (ownEntry typed)) :
    inject service pool states = (pool, none) := by
  induction states with
  | nil => rfl
  | cons state rest ih =>
    obtain ⟨⟨typed, hresolved, hfound⟩, hrest⟩ := List.forall_mem_cons.mp h
    simp only [inject, hresolved, hfound, ownEntry, if_true, ih hrest]

/-- Where all states have joined, none of them clashes with the pool or with those before it. -/
theorem not_clashes_of_inject (h : inject service pool (earlier ++ state :: later) = (after, none))
    (hnodup : (pool.map PoolState.name).Nodup) : ¬ Clashes (pool ++ definitions earlier) state := by
  have hjoined := joined_of_inject h
  obtain ⟨typed, hresolved, hfound⟩ := hjoined.found state (by simp)
  have hsubset : pool ++ definitions earlier ⊆ after := by
    intro entry hentry
    refine hjoined.subset ?_
    rw [definitions, List.filterMap_append, ← List.append_assoc]
    exact List.mem_append_left _ hentry
  rintro (hnone | ⟨other, hother, entry, hentry, hname, hsource⟩)
  · rw [hresolved] at hnone
    cases hnone
  · obtain rfl : typed = other := Option.some.inj (hresolved.symm.trans hother)
    have hentry :=
      (Text.find?_key_eq_some_iff (nodup_of_inject h hnodup)).mpr ⟨hsubset hentry, hname⟩
    obtain rfl : ownEntry typed = entry := Option.some.inj (hfound.symm.trans hentry)
    exact hsource rfl

/-- A run fails exactly if one of the states clashes with the pool or with those before it. -/
theorem inject_fails_iff (hnodup : (pool.map PoolState.name).Nodup) :
    (inject service pool states).2 ≠ none ↔
      ∃ earlier state later, states = earlier ++ state :: later ∧
      Clashes (pool ++ definitions earlier) state := by
  constructor
  · intro hfails
    rcases inject_cases service pool states with
      ⟨after, hread⟩ | ⟨earlier, state, later, after, error, rfl, hearlier, hclashes, -⟩
    · rw [hread] at hfails
      exact absurd rfl hfails
    · obtain ⟨added, rfl, hadded⟩ := exists_added_of_inject hearlier
      refine ⟨earlier, state, later, rfl,
        hclashes.mono (List.append_subset.mpr ⟨List.subset_append_left _ _, ?_⟩)⟩
      exact List.Subset.trans hadded (List.subset_append_right _ _)
  · rintro ⟨earlier, state, later, rfl, hclashes⟩ hread
    exact not_clashes_of_inject (Prod.ext rfl hread) hnodup hclashes

/-! ### Injection -/

/-- States that join the pool of a service leave its entries as they are and come behind them, as
states that the service owns, and all names stay different. If no state clashes with the pool or
with those before it, all of them are in the pool under their names, each name once, and joining
again changes nothing; otherwise the run fails. -/
theorem inject_exact (service : Service) (hnodup : (service.states.map PoolState.name).Nodup)
    (states : List StepState) :
    ∃ added error, inject service.name service.states states = (service.states ++ added, error) ∧
      (∀ entry ∈ added, ∃ typed, entry = ownEntry typed) ∧
      ((service.states ++ added).map PoolState.name).Nodup ∧
      (error = none →
        (∀ state ∈ states, ∃ typed, state.resolved = some typed ∧
          ownEntry typed ∈ service.states ++ added) ∧
        (service.states ++ added).map PoolState.name =
          (service.states.map PoolState.name ++ stateNames states).eraseDups ∧
        inject service.name (service.states ++ added) states = (service.states ++ added, none)) ∧
      (error ≠ none ↔ ∃ earlier state later, states = earlier ++ state :: later ∧
        Clashes (service.states ++ definitions earlier) state) := by
  have hfails := @inject_fails_iff service.name service.states states hnodup
  have howned {states : List StepState} {added : List PoolState} (h : added ⊆ definitions states) :
      ∀ entry ∈ added, ∃ typed, entry = ownEntry typed := by
    intro entry hentry
    obtain ⟨state, -, hdefined⟩ := List.mem_filterMap.mp (h hentry)
    obtain ⟨typed, -, rfl⟩ := Option.map_eq_some_iff.mp hdefined
    exact ⟨typed, rfl⟩
  rcases inject_cases service.name service.states states with
    ⟨after, hread⟩ | ⟨earlier, state, later, after, error, rfl, hearlier, -, hend⟩
  · obtain ⟨added, rfl, hadded⟩ := exists_added_of_inject hread
    have hfound := (joined_of_inject hread).found
    rw [hread] at hfails
    refine ⟨added, none, hread, howned hadded, nodup_of_inject hread hnodup,
      fun _ ↦ ⟨fun state hstate ↦ ?_,
      map_name_of_inject hread hnodup, inject_of_found hfound⟩, hfails⟩
    obtain ⟨typed, hresolved, hfound⟩ := hfound state hstate
    exact ⟨typed, hresolved, List.mem_of_find?_eq_some hfound⟩
  · -- what was read before the clash is a run that succeeds
    obtain ⟨added, rfl, hadded⟩ := exists_added_of_inject hearlier
    rw [hend] at hfails
    exact ⟨added, some error, hend, howned hadded, nodup_of_inject hearlier hnodup,
      fun hnone ↦ absurd hnone (by simp), hfails⟩

/-- Counts something for every customer. -/
def counter (name : String) : TypedState := { name, type := { key := "string", value := .u32 } }

/-- Owns the number of orders, and can read the clock of the system. -/
def orderService : Service :=
  { name := "orders",
    states := [ownEntry (counter "orders"), { name := "clock", source := .system "clock" }] }

/-- The number of orders, and that of returns, which is listed twice. -/
def countedStates : List StepState :=
  [{ name := "orders", resolved := some (counter "orders") },
    { name := "returns", resolved := some (counter "returns") },
    { name := "returned", resolved := some (counter "returns") }]

/-- One of the states is there already, and the other joins the pool once. -/
theorem inject_exact_orders :
    (orderService.states.map PoolState.name).Nodup ∧
      inject "orders" orderService.states countedStates =
        (orderService.states ++ [ownEntry (counter "returns")], none) ∧
      inject "orders" (orderService.states ++ [ownEntry (counter "returns")]) countedStates =
        (orderService.states ++ [ownEntry (counter "returns")], none) := by
  have hnodup : (orderService.states.map PoolState.name).Nodup := by decide
  have hrun : inject "orders" orderService.states countedStates =
      (orderService.states ++ [ownEntry (counter "returns")], none) := by decide
  obtain ⟨added, error, hinject, -, -, hsuccess, -⟩ :=
    inject_exact orderService hnodup countedStates
  obtain ⟨hadded, rfl⟩ := Prod.mk.inj (hrun.symm.trans hinject)
  rw [← hadded] at hsuccess
  exact ⟨hnodup, hrun, (hsuccess rfl).2.2⟩

end FlowSpec.State
