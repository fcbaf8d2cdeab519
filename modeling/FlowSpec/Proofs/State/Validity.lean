import FlowSpec.Proofs.Lowering.Services
import FlowSpec.Proofs.State.Coverage
import FlowSpec.Proofs.Validation.Agreement

/-!
Validation covers the pools. It settles the value of every owned state and looks up every reference.
Resolution does both once more, and it looks references up among settled states; but settling keeps
the names of states and which of them are owned, so a reference is found in one place if it is found
in the other. In a valid dataflow whose entries are as they are lowered or adopted, the passes over
pools find no fault then, and all owned states and references get values
(`pools_settled_of_validateDataflow`). Only a state of a step may still be missing.
-/

set_option autoImplicit false

namespace FlowSpec.State

open Outcome

section Pools

variable {lookup : String → Option Shape} {scope : Scope} {dataflow : Dataflow}
  {service owner : Service} {entry found : PoolState} {target : StateTarget}

/-! ### What validation says of pools -/

theorem poolStateProblems_of_validateDataflow
    (h : Validation.validateDataflow scope dataflow = .ok ())
    (hservice : service ∈ dataflow.services) (hentry : entry ∈ service.states) :
    Validation.poolStateProblems scope entry = [] := by
  obtain ⟨_, _, _, hsilent⟩ :=
    Validation.exists_silent (Validation.serviceProblems_of_validateDataflow h service hservice)
  exact hsilent.pool entry hentry

/-- A dataflow that is found valid has values that are known. -/
theorem known_of_validateDataflow (h : Validation.validateDataflow scope dataflow = .ok ()) :
    Known scope.shape? dataflow := by
  intro service hservice entry hentry typed hsource
  have hpool := poolStateProblems_of_validateDataflow h hservice hentry
  unfold Validation.poolStateProblems at hpool
  cases hresult : typed.resolve scope.shape? with
  | error error => simp [hsource, hresult] at hpool
  | ok result =>
    refine ⟨result, rfl, ?_⟩
    cases hvalue : result.type.value with
    | unresolved name => simp [hsource, hresult, problems, typedProblems, hvalue] at hpool
    | _ => rfl

theorem isUndefined_of_validateDataflow (h : Validation.validateDataflow scope dataflow = .ok ())
    (hservice : service ∈ dataflow.services) (hentry : entry ∈ service.states) :
    Validation.isUndefined dataflow entry = false := by
  unfold Validation.validateDataflow Validation.conclude at h
  split_ifs at h with hnodes
  simp only [List.isEmpty_iff, Validation.dataflowProblems, List.append_eq_nil_iff,
    Option.toList_eq_nil_iff] at hnodes
  have hnone := hnodes.1.2
  rw [Validation.undefinedReference, List.head?_eq_none_iff, List.flatMap_eq_nil_iff] at hnone
  have hentries := List.filter_eq_nil_iff.mp (List.map_eq_nil_iff.mp (hnone service hservice))
  simpa using hentries entry hentry

/-- The names in a reference that passes the check of its form are not empty. -/
theorem isEmpty_of_referenceProblems (h : referenceProblems (some target) = []) :
    target.service.isEmpty = false ∧ target.state.isEmpty = false := by
  unfold referenceProblems at h
  cases hservice : target.service.isEmpty <;> cases hstate : target.state.isEmpty <;> simp_all

/-- A reference of a valid dataflow points at an owned state. -/
theorem exists_owned_of_validateDataflow {before : Option TypedState}
    (h : Validation.validateDataflow scope dataflow = .ok ())
    (hservice : service ∈ dataflow.services) (hentry : entry ∈ service.states)
    (hsource : entry.source = .reference (some target) before) :
    ∃ owner found typed, dataflow.service? target.service = some owner ∧
      owner.state? target.state = some found ∧ found.source = .owned typed := by
  have hpool := poolStateProblems_of_validateDataflow h hservice hentry
  simp only [Validation.poolStateProblems, hsource, problems, List.map_eq_nil_iff,
    Option.toList_eq_nil_iff, Validation.linesUnlessEmpty_eq_none_iff] at hpool
  obtain ⟨hnamed, hnamed'⟩ := isEmpty_of_referenceProblems hpool
  have hdefined := isUndefined_of_validateDataflow h hservice hentry
  simp only [Validation.isUndefined, hsource, hnamed, hnamed', Bool.or_self, Bool.false_eq_true,
    if_false] at hdefined
  split at hdefined
  next name typed hfound =>
    obtain ⟨owner, howner, hstate⟩ := Option.bind_eq_some_iff.mp hfound
    exact ⟨owner, _, typed, howner, hstate, rfl⟩
  next => cases hdefined

/-! ### Passes over valid pools -/

theorem Known.valued (h : Known lookup dataflow) : Valued lookup dataflow := by
  intro service hservice
  rw [resolveOwned_eq, snd_passUntil_eq_none_iff]
  intro entry hentry
  refine exists_ownedEntry_iff.mpr fun typed hsource ↦ ?_
  obtain ⟨result, hresult, -⟩ := h service hservice entry hentry typed hsource
  exact ⟨result, hresult⟩

/-- What a reference finds before values are settled, it finds among settled states. -/
theorem Valued.exists_ownedState? (h : Valued lookup dataflow) {typed : TypedState}
    (howner : dataflow.service? target.service = some owner)
    (hfound : owner.state? target.state = some found)
    (hsource : found.source = .owned (some typed)) :
    ∃ result, ownedState? (settleDataflow lookup dataflow) target = some result := by
  have hsettled : (settleDataflow lookup dataflow).service? target.service =
      some (settleService lookup owner) := by
    rw [Dataflow.service?, settleDataflow, List.find?_map]
    exact congrArg (Option.map _) howner
  have hpool := h.forall₂ (List.mem_of_find?_eq_some howner)
  obtain ⟨middle, hmiddle, hpass⟩ : ∃ middle,
    (settleService lookup owner).state? target.state = some middle ∧
      ownedEntry lookup owner.name found = .ok middle :=
    exists_find?_of_forall₂ hpool (fun _ _ hpass ↦ by rw [(of_ownedEntry hpass).1]) hfound
  obtain ⟨result, hresult⟩ := (of_ownedEntry hpass).2.2.1 typed hsource
  exact ⟨result, ownedState?_eq_some_iff_exists.mpr ⟨_, hsettled, middle, hmiddle, hresult⟩⟩

/-- In a valid dataflow whose entries are fresh, all references are followed. -/
theorem followed_of_validateDataflow (h : Validation.validateDataflow scope dataflow = .ok ())
    (hfresh : ∀ service ∈ dataflow.services, ∀ entry ∈ service.states, Fresh entry) :
    Followed scope.shape? (settleDataflow scope.shape? dataflow) dataflow := by
  have hvalued := (known_of_validateDataflow h).valued
  intro service hservice
  rw [resolveReferences_eq, snd_passUntil_eq_none_iff]
  intro middle hmiddle
  refine exists_referenceEntry_iff.mpr fun target before hsource ↦ ?_
  obtain ⟨entry, hentry, hpass⟩ := exists_left_of_forall₂ (hvalued.forall₂ hservice) hmiddle
  have hreference := ((of_ownedEntry hpass).2.1 _ _).mp hsource
  obtain ⟨owner, found, typed, howner, hfound, howned⟩ :=
    exists_owned_of_validateDataflow h hservice hentry hreference
  have hfreshFound :=
    hfresh owner (List.mem_of_find?_eq_some howner) found (List.mem_of_find?_eq_some hfound)
  cases hfreshFound with
  | owned name type => exact hvalued.exists_ownedState? howner hfound rfl
  | reference => cases howned
  | system => cases howned

/-- Owned states and references have values once they are linked. -/
theorem Known.exists_value (h : Known lookup dataflow) (hvalued : Valued lookup dataflow)
    (hfollowed : Followed lookup (settleDataflow lookup dataflow) dataflow)
    (hservice : service ∈ dataflow.services) (hfresh : ∀ entry ∈ service.states, Fresh entry)
    (hentry : entry ∈ (linkService lookup (settleDataflow lookup dataflow) service).states)
    (hsource : ∀ kind, entry.source ≠ .system kind) :
    ∃ typed, entry.typed = some typed ∧ typed.type.value.isResolved := by
  obtain ⟨before, -, hsettles⟩ :=
    exists_left_of_forall₂ (hvalued.settles hfollowed hservice hfresh) hentry
  have hsome : entry.typed.isSome := by
    cases hsettles with
    | owned | reference => rfl
    | system => exact absurd rfl (hsource _)
  obtain ⟨typed, htyped⟩ := Option.isSome_iff_exists.mp hsome
  refine ⟨typed, htyped, h.isResolved_of_typed hvalued hfollowed hservice hfresh ?_⟩
  exact List.mem_filterMap.mpr ⟨entry, hentry, htyped⟩

/-! ### Dataflows with their imports -/

/-- The entries of a lowered dataflow are fresh, and so are those that join them with imported
functions. -/
theorem fresh_of_resolveDataflow {document : Document.DataflowDocument} {lowered : Dataflow}
    {imports : List Import} {packages : List Package} {resolution : Package.Resolution}
    (hlowered : Lowering.dataflow document = .ok lowered)
    (himported : Package.resolveDataflow { lowered with imports } packages =
      .ok (dataflow, resolution)) :
    ∀ service ∈ dataflow.services, ∀ entry ∈ service.states, Fresh entry := by
  intro service hservice
  obtain ⟨resolved, -, himported⟩ := bind_eq_ok_iff.mp himported
  obtain ⟨⟨types, states⟩, -, himported⟩ := bind_eq_ok_iff.mp himported
  obtain ⟨services, hservices, himported⟩ := bind_eq_ok_iff.mp himported
  cases himported
  obtain ⟨original, horiginal, hadopted⟩ :=
    exists_left_of_forall₂ (mapM_eq_ok_iff.mp hservices) hservice
  obtain ⟨item, -, hitem⟩ :=
    exists_left_of_forall₂ (Lowering.loweredServices_of_dataflow hlowered) horiginal
  exact (Package.adopted_of_adoptFunctions hadopted).2.fresh hitem.entries

/-- In a dataflow with its imports that is found valid, neither the pass over owned states nor the
pass over references reports an error, so that resolution can only miss states of steps. All entries
are settled, and those that are not the system's have a value. -/
theorem pools_settled_of_validateDataflow {document : Document.DataflowDocument}
    {lowered : Dataflow} {imports : List Import} {packages : List Package}
    {resolution : Package.Resolution} (hlowered : Lowering.dataflow document = .ok lowered)
    (himported : Package.resolveDataflow { lowered with imports } packages =
      .ok (dataflow, resolution))
    (hvalid : Validation.validateDataflow scope dataflow = .ok ()) :
    (visitPools (resolveOwned scope.shape?) dataflow.services).2 = [] ∧
      (visitPools (resolveReferences (settleDataflow scope.shape? dataflow))
        (settleDataflow scope.shape? dataflow).services).2 = [] ∧
      (∀ error ∈ (resolveDataflow scope.shape? dataflow).2, error.kind = .unresolvedStep) ∧
      List.Forall₂ (fun service result ↦
          List.Forall₂ (Settles scope.shape? (settleDataflow scope.shape? dataflow)) service.states
            result.states ∧
          ∀ entry ∈ result.states, (∀ kind, entry.source ≠ .system kind) →
            ∃ typed, entry.typed = some typed ∧ typed.type.value.isResolved)
        dataflow.services (resolveDataflow scope.shape? dataflow).1.services := by
  have hfresh := fresh_of_resolveDataflow hlowered himported
  have hknown := known_of_validateDataflow hvalid
  have hvalued := hknown.valued
  have hfollowed := followed_of_validateDataflow hvalid hfresh
  refine ⟨snd_visitPools_resolveOwned_eq_nil_iff.mpr hvalued,
    snd_visitPools_resolveReferences_eq_nil_iff.mpr hfollowed, ?_, ?_⟩
  · rw [resolveDataflow_of_followed hvalued hfollowed]
    intro error herror
    obtain ⟨service, -, hsteps⟩ := List.mem_filterMap.mp herror
    exact kind_of_resolveSteps hsteps
  · rw [resolveDataflow_of_followed hvalued hfollowed, List.forall₂_map_right_iff,
      List.forall₂_same]
    intro service hservice
    rw [states_resolveSteps]
    exact ⟨hvalued.settles hfollowed hservice (hfresh service hservice), fun entry ↦
      hknown.exists_value hvalued hfollowed hservice (hfresh service hservice)⟩

end Pools

namespace Tally

def entry (states : List (String × Document.StateEntry)) : Document.ServiceEntry :=
  { sources := [{ kind := "topic", id := "words" }], sinks := [{ kind := "topic", id := "words" }],
    states }

/-- One service owns a state, and another reads it under a name of its own. -/
def document : Document.DataflowDocument :=
  { apiVersion := "0.6.0"
    header := { owner := "example", name := "tally", version := "0.1.0" }
    types := [("amount", .plain {} "u32")]
    topics := [("words", { value := { type := "string" } })]
    services :=
      [("count", entry [("totals",
              .declared (.keyedState {} (.plain {} "string") (.plain {} "amount")))]),
       ("report", entry [("latest", .reference "count.totals")])] }

def amount : NamedType := { name := "amount", shape := .primitive .u32 }

def totals (value : StateValue) : TypedState :=
  { name := "totals", type := { key := "string", value } }

def service (name : String) (states : List PoolState) : Service :=
  { name, sources := [{ kind := .topic, id := "words" }],
    sinks := [{ kind := .topic, id := "words" }], states }

def dataflow : Dataflow :=
  { apiVersion := "0.6.0"
    header := { owner := "example", name := "tally", version := "0.1.0" }
    types := [amount]
    topics :=
      [{ id := "words", name := "words", value := { type := "string", converter := "json" } }]
    services :=
      [service "count" [⟨"totals", .owned (some (totals (.unresolved "amount")))⟩],
       service "report" [⟨"latest", .reference (some ⟨"count", "totals"⟩) none⟩]] }

def resolution : Package.Resolution := { imports := [], resolved := [] }

def scope : Scope := { types := [amount, (totals .u32).namedType] }

theorem dataflow_document : Lowering.dataflow document = .ok dataflow := by
  have hservices : Text.sortByName Prod.fst document.services = document.services :=
    List.mergeSort_of_pairwise (by simp [document])
  rw [Lowering.dataflow, hservices]
  exact eq_ok_of_toOption (by decide +kernel)

theorem resolveDataflow_dataflow :
    Package.resolveDataflow dataflow [] = .ok (dataflow, resolution) :=
  eq_ok_of_toOption (by decide +kernel)

theorem scope_dataflow : dataflow.scope = .ok scope := by
  cbv

end Tally

open Tally in
/-- The state of the one service and the reference of the other both get the value that is
declared. -/
theorem pools_settled_of_validateDataflow_tally :
    Lowering.dataflow document = .ok dataflow ∧
      Package.resolveDataflow dataflow [] = .ok (dataflow, resolution) ∧
      dataflow.scope = .ok scope ∧ Validation.validateDataflow scope dataflow = .ok () ∧
      (visitPools (resolveReferences (settleDataflow scope.shape? dataflow))
        (settleDataflow scope.shape? dataflow).services).2 = [] ∧
      ∀ service ∈ (resolveDataflow scope.shape? dataflow).1.services, ∀ entry ∈ service.states,
        (∀ kind, entry.source ≠ .system kind) → ∃ typed, entry.typed = some typed ∧
        typed.type.value.isResolved := by
  have hvalid : Validation.validateDataflow scope dataflow = .ok () := rfl
  obtain ⟨-, hreferences, -, hservices⟩ :=
    pools_settled_of_validateDataflow dataflow_document resolveDataflow_dataflow hvalid
  refine ⟨dataflow_document, resolveDataflow_dataflow, scope_dataflow, hvalid, hreferences,
    fun service hservice ↦ ?_⟩
  obtain ⟨before, -, hsettled⟩ := exists_left_of_forall₂ hservices hservice
  exact hsettled.2

end FlowSpec.State
