import Mathlib.Data.List.Forall2
import Mathlib.Data.List.Induction

/-!
Computations that may fail. What a chain, a map or a fold of such computations returns is told by
what its parts return, so that later proofs take a computation apart without opening it. An
invariant of a fold holds of the part that was read before a failure as well.
-/

set_option autoImplicit false

namespace FlowSpec.Outcome

variable {ε ε' α β : Type}

theorem pure_eq_ok (a : α) : (pure a : Except ε α) = .ok a := rfl

theorem ok_bind (a : α) (next : α → Except ε β) : Except.ok a >>= next = next a := rfl

section Chains

variable {first outcome : Except ε α} {next : α → Except ε β} {a : α} {b : β}

theorem bind_eq_ok_iff : first >>= next = .ok b ↔ ∃ a, first = .ok a ∧ next a = .ok b := by
  cases first with
  | error e => simp [bind, Except.bind]
  | ok a => simp [bind, Except.bind]

theorem exists_bind_eq_ok_iff :
    (∃ b, first >>= next = .ok b) ↔ ∃ a, first = .ok a ∧ ∃ b, next a = .ok b := by
  cases first with
  | error e => simp [bind, Except.bind]
  | ok a => simp [bind, Except.bind]

theorem bind_eq_error_iff {e : ε} :
    first >>= next = .error e ↔ first = .error e ∨ ∃ a, first = .ok a ∧ next a = .error e := by
  cases first with
  | error e => simp [bind, Except.bind]
  | ok a => simp [bind, Except.bind]

theorem map_eq_ok_iff {f : α → β} : outcome.map f = .ok b ↔ ∃ a, outcome = .ok a ∧ f a = b := by
  cases outcome <;> simp [Except.map]

theorem eq_ok_of_toOption (h : outcome.toOption = some a) : outcome = .ok a := by
  cases outcome with
  | error e => cases h
  | ok b => rw [Option.some.inj h]

theorem mapError_eq_ok_iff {f : ε → ε'} : outcome.mapError f = .ok a ↔ outcome = .ok a := by
  cases outcome <;> simp [Except.mapError]

theorem mapError_eq_error_iff {f : ε → ε'} {e : ε'} :
    outcome.mapError f = .error e ↔ ∃ cause, outcome = .error cause ∧ f cause = e := by
  cases outcome <;> simp [Except.mapError]

end Chains

/-! ### Computations that keep a record -/

section Recording

variable {σ : Type} {first : ExceptT ε (StateM σ) α} {next : α → ExceptT ε (StateM σ) β}
  {before after : σ}

theorem run_bind_eq_ok_iff {b : β} : (first >>= next).run.run before = (.ok b, after) ↔
    ∃ a between, first.run.run before = (.ok a, between) ∧
      (next a).run.run between = (.ok b, after) := by
  rw [ExceptT.run_bind, StateT.run_bind]
  rcases first.run.run before with ⟨e | a, between⟩
  · constructor
    · intro h
      cases h
    · rintro ⟨_, _, h, -⟩
      cases h
  · constructor
    · exact fun h ↦ ⟨a, between, rfl, h⟩
    · rintro ⟨_, _, h, hnext⟩
      cases h
      exact hnext

end Recording

/-! ### Maps -/

variable {γ : Type} {relation : α → β → Prop} {items : List α} {item : α} {results : List β}

theorem exists_right_of_forall₂ (h : List.Forall₂ relation items results) (hitem : item ∈ items) :
    ∃ result ∈ results, relation item result := by
  induction h with
  | nil => simp at hitem
  | cons hhead _ ih =>
    rcases List.mem_cons.mp hitem with rfl | hitem
    · exact ⟨_, List.mem_cons_self, hhead⟩
    · obtain ⟨result, hresult, hrelation⟩ := ih hitem
      exact ⟨result, List.mem_cons_of_mem _ hresult, hrelation⟩

theorem exists_left_of_forall₂ {result : β} (h : List.Forall₂ relation items results)
    (hresult : result ∈ results) :
    ∃ item ∈ items, relation item result :=
  exists_right_of_forall₂ h.flip hresult

/-- Where related items are alike for a search, what is found in one list is related to what is
found in the other. -/
theorem exists_find?_of_forall₂ {p : α → Bool} {q : β → Bool}
    (h : List.Forall₂ relation items results)
    (halike : ∀ item result, relation item result → q result = p item)
    (hfound : items.find? p = some item) :
    ∃ result, results.find? q = some result ∧ relation item result := by
  induction h with
  | nil => cases hfound
  | @cons first next rest others hfirst _ ih =>
    rw [List.find?_cons] at hfound ⊢
    rw [halike first next hfirst]
    cases hp : p first with
    | true =>
      rw [hp] at hfound
      exact ⟨next, rfl, Option.some.inj hfound ▸ hfirst⟩
    | false =>
      rw [hp] at hfound
      exact ih hfound

theorem map_eq_map_of_forall₂ {f : α → γ} {g : β → γ} (h : List.Forall₂ relation items results)
    (hsame : ∀ item result, relation item result → g result = f item) :
    results.map g = items.map f := by
  induction h with
  | nil => rfl
  | cons hhead _ ih => rw [List.map_cons, List.map_cons, hsame _ _ hhead, ih]

theorem map_eq_of_forall₂ {f : α → β} (h : List.Forall₂ relation items results)
    (hsame : ∀ item, ∀ result ∈ results, relation item result → f item = result) :
    items.map f = results := by
  induction h with
  | nil => rfl
  | cons hhead _ ih =>
    rw [List.map_cons, hsame _ _ List.mem_cons_self hhead,
      ih fun item result hresult ↦ hsame item result (List.mem_cons_of_mem _ hresult)]

theorem forall₂_comp {first : α → β → Prop} {second : β → γ → Prop} {whole : α → γ → Prop}
    {middles : List β} {results : List γ} (h : List.Forall₂ first items middles)
    (h' : List.Forall₂ second middles results)
    (hwhole : ∀ item ∈ items, ∀ middle result, first item middle → second middle result →
      whole item result) :
    List.Forall₂ whole items results := by
  induction h generalizing results with
  | nil =>
    cases h'
    exact .nil
  | cons hhead _ ih =>
    cases h' with
    | cons hhead' htail' =>
      obtain ⟨hitem, hrest⟩ := List.forall_mem_cons.mp hwhole
      exact .cons (hitem _ _ hhead hhead') (ih htail' hrest)

theorem mapM_congr {m : Type → Type} [Monad m] [LawfulMonad m] {f g : α → m β}
    (h : ∀ item ∈ items, f item = g item) : items.mapM f = items.mapM g := by
  induction items with
  | nil => rfl
  | cons item rest ih =>
    obtain ⟨hitem, hrest⟩ := List.forall_mem_cons.mp h
    rw [List.mapM_cons, List.mapM_cons, hitem, ih hrest]

/-- A map whose results are found elsewhere is what is found. -/
theorem mapM_eq_ok_filterMap {f : α → Except ε β} {found : α → Option β}
    (h : ∀ item ∈ items, ∃ result, found item = some result ∧ f item = .ok result) :
    items.mapM f = .ok (items.filterMap found) := by
  induction items with
  | nil => rfl
  | cons item rest ih =>
    obtain ⟨⟨result, hfound, hresult⟩, hrest⟩ := List.forall_mem_cons.mp h
    rw [List.mapM_cons, List.filterMap_cons_some hfound, hresult, ih hrest]
    rfl

theorem mapM_eq_ok_iff {f : α → Except ε β} :
    items.mapM f = .ok results ↔
      List.Forall₂ (fun item result ↦ f item = .ok result) items results := by
  induction items generalizing results with
  | nil => cases results <;> simp [pure, Except.pure]
  | cons item rest ih =>
    rw [List.mapM_cons]
    constructor
    · intro h
      obtain ⟨result, hresult, h⟩ := bind_eq_ok_iff.mp h
      obtain ⟨others, hothers, h⟩ := bind_eq_ok_iff.mp h
      cases h
      exact .cons hresult (ih.mp hothers)
    · intro h
      cases h with
      | cons hresult hothers =>
        exact bind_eq_ok_iff.mpr ⟨_, hresult, bind_eq_ok_iff.mpr ⟨_, ih.mpr hothers, rfl⟩⟩

/-- Where every outcome is changed in its value, so is the outcome of the map. -/
theorem mapM_eq_map {f : α → Except ε β} {g : α → Except ε γ} {change : β → γ}
    (h : ∀ item ∈ items, g item = (f item).map change) :
    items.mapM g = (items.mapM f).map (List.map change) := by
  induction items with
  | nil => rfl
  | cons item rest ih =>
    obtain ⟨hitem, hrest⟩ := List.forall_mem_cons.mp h
    rw [List.mapM_cons, List.mapM_cons, hitem, ih hrest]
    cases f item with
    | error e => rfl
    | ok result => cases rest.mapM f <;> rfl

/-- A map fails only where it fails on one of the items. -/
theorem exists_of_mapM_eq_error {f : α → Except ε β} {e : ε}
    (h : items.mapM f = .error e) : ∃ item ∈ items, f item = .error e := by
  induction items with
  | nil => cases h
  | cons item rest ih =>
    rw [List.mapM_cons] at h
    rcases bind_eq_error_iff.mp h with h | ⟨result, -, h⟩
    · exact ⟨item, List.mem_cons_self, h⟩
    · rcases bind_eq_error_iff.mp h with h | ⟨others, -, h⟩
      · obtain ⟨other, hother, h⟩ := ih h
        exact ⟨other, List.mem_cons_of_mem _ hother, h⟩
      · cases h

theorem forM_eq_ok_iff {f : α → Except ε Unit} :
    items.forM f = .ok () ↔ ∀ item ∈ items, f item = .ok () := by
  induction items with
  | nil => exact ⟨fun _ item hitem ↦ absurd hitem List.not_mem_nil, fun _ ↦ rfl⟩
  | cons item rest ih =>
    change (f item >>= fun _ ↦ rest.forM f) = .ok () ↔ _
    rw [List.forall_mem_cons, bind_eq_ok_iff, ← ih]
    constructor
    · rintro ⟨⟨⟩, hitem, hrest⟩
      exact ⟨hitem, hrest⟩
    · rintro ⟨hitem, hrest⟩
      exact ⟨(), hitem, hrest⟩

theorem exists_of_forM_eq_error {f : α → Except ε Unit} {e : ε}
    (h : items.forM f = .error e) : ∃ item ∈ items, f item = .error e := by
  induction items with
  | nil => cases h
  | cons item rest ih =>
    change (f item >>= fun _ ↦ rest.forM f) = .error e at h
    rcases bind_eq_error_iff.mp h with h | ⟨-, -, h⟩
    · exact ⟨item, List.mem_cons_self, h⟩
    · obtain ⟨other, hother, h⟩ := ih h
      exact ⟨other, List.mem_cons_of_mem _ hother, h⟩

/-! ### Folds -/

/-- An invariant that each step keeps holds of the whole list when a fold succeeds. When it fails,
the step that fails starts from a value of which the invariant holds. -/
theorem foldlM_invariant {f : β → α → Except ε β} (invariant : List α → β → Prop) {start : β}
    (hstart : invariant [] start) (items : List α)
    (hstep : ∀ before, ∀ item ∈ items, ∀ value next,
      invariant before value → f value item = .ok next → invariant (before ++ [item]) next) :
    match items.foldlM f start with
    | .ok value => invariant items value
    | .error e => ∃ before item after value, items = before ++ item :: after ∧
        invariant before value ∧ f value item = .error e := by
  induction items using List.reverseRecOn with
  | nil => exact hstart
  | append_singleton before item ih =>
    replace ih := ih fun first other hother ↦ hstep first other (List.mem_append_left _ hother)
    rw [List.foldlM_append]
    cases hbefore : before.foldlM f start with
    | error e =>
      rw [hbefore] at ih
      obtain ⟨first, other, after, value, rfl, hvalue, herror⟩ := ih
      exact ⟨first, other, after ++ [item], value, by simp, hvalue, herror⟩
    | ok value =>
      rw [hbefore] at ih
      change match [item].foldlM f value with | .ok value => _ | .error e => _
      rw [List.foldlM_cons]
      cases hitem : f value item with
      | error e => exact ⟨before, item, [], value, rfl, ih, hitem⟩
      | ok next => exact hstep before item (by simp) value next ih hitem

/-- Every step of a fold that succeeds has succeeded. -/
theorem exists_of_foldlM_eq_ok {f : β → α → Except ε β} {start result : β}
    (h : items.foldlM f start = .ok result) (hitem : item ∈ items) :
    ∃ value next, f value item = .ok next := by
  induction items generalizing start with
  | nil => simp at hitem
  | cons first rest ih =>
    rw [List.foldlM_cons] at h
    obtain ⟨next, hfirst, hrest⟩ := bind_eq_ok_iff.mp h
    rcases List.mem_cons.mp hitem with rfl | hitem
    · exact ⟨start, next, hfirst⟩
    · exact ih hrest hitem

end FlowSpec.Outcome
