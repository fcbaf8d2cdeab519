import FlowSpec.Lowering.Types
import FlowSpec.Proofs.Outcome
import Mathlib.Data.Set.Lattice

/-!
What the actions that fill a table of shapes can do. A table only grows: an action leaves the
entries it finds in place, ahead of its own, and a name is written once (`Hoisted`). An action that
takes in a given set of entries, or fails with a redefinition only where two different entries have
one name, is said to lower it (`Lowers`). The sets of two actions that follow one another are joined
(`Lowers.bind`), so what a whole document hoists is told by what its parts hoist.
-/

set_option autoImplicit false

namespace FlowSpec.Lowering

variable {α β ι : Type} {name : String} {shape : Shape} {cause : Cause}

theorem biUnion_nil (taken : ι → Set (String × Shape)) :
    (⋃ item ∈ ([] : List ι), taken item) = ∅ := by
  simp

theorem biUnion_cons (taken : ι → Set (String × Shape)) (item : ι) (rest : List ι) :
    (⋃ other ∈ item :: rest, taken other) = taken item ∪ ⋃ other ∈ rest, taken other := by
  simp [Set.iUnion_or, Set.iUnion_union_distrib]

/-! ### Growing tables -/

/-- From `before` to `after` a table takes in `entries` and nothing else, and overwrites nothing. -/
structure Hoisted (before : Table) (entries : Set (String × Shape)) (after : Table) : Prop where
  kept : before <+: after
  found : ∀ name shape, (name, shape) ∈ entries → after.lookup name = some shape
  added : ∀ entry ∈ after, entry ∈ before ∨ entry ∈ entries
  nodup : (before.map Prod.fst).Nodup → (after.map Prod.fst).Nodup

/-- Two different shapes have one name. -/
def Clashes (entries : Set (String × Shape)) (name : String) : Prop :=
  ∃ first second, (name, first) ∈ entries ∧ (name, second) ∈ entries ∧ first ≠ second

theorem Clashes.mono {entries others : Set (String × Shape)} (h : Clashes entries name)
    (hsubset : entries ⊆ others) : Clashes others name := by
  obtain ⟨first, second, hfirst, hsecond, hne⟩ := h
  exact ⟨first, second, hsubset hfirst, hsubset hsecond, hne⟩

theorem lookup_of_kept {before after : Table} (hkept : before <+: after)
    (h : before.lookup name = some shape) : after.lookup name = some shape := by
  obtain ⟨rest, rfl⟩ := hkept
  rw [List.lookup_append, h, Option.some_or]

theorem mem_of_lookup {table : Table} (h : table.lookup name = some shape) :
    (name, shape) ∈ table := by
  obtain ⟨first, rest, rfl, -⟩ := List.lookup_eq_some_iff.mp h
  simp

theorem notMem_of_lookup_eq_none {table : Table} (h : table.lookup name = none) :
    name ∉ table.map Prod.fst := by
  intro hmem
  obtain ⟨entry, hentry, rfl⟩ := List.mem_map.mp hmem
  simpa using List.lookup_eq_none_iff.mp h entry hentry

namespace Hoisted

variable {before middle after : Table} {entries others : Set (String × Shape)}

theorem refl (table : Table) : Hoisted table ∅ table where
  kept := List.prefix_rfl
  found := by simp
  added _ hentry := .inl hentry
  nodup := id

theorem trans (hfirst : Hoisted before entries middle) (hlast : Hoisted middle others after) :
    Hoisted before (entries ∪ others) after where
  kept := hfirst.kept.trans hlast.kept
  found name shape hentry := by
    rcases hentry with hentry | hentry
    · exact lookup_of_kept hlast.kept (hfirst.found name shape hentry)
    · exact hlast.found name shape hentry
  added entry hentry := by
    rcases hlast.added entry hentry with hentry | hentry
    · exact (hfirst.added entry hentry).imp id .inl
    · exact .inr (.inr hentry)
  nodup := hlast.nodup ∘ hfirst.nodup

theorem of_lookup (h : before.lookup name = some shape) :
    Hoisted before {(name, shape)} before where
  kept := List.prefix_rfl
  found other otherShape hentry := by
    cases hentry
    exact h
  added _ hentry := .inl hentry
  nodup := id

theorem append (h : before.lookup name = none) :
    Hoisted before {(name, shape)} (before ++ [(name, shape)]) where
  kept := List.prefix_append _ _
  found other otherShape hentry := by
    cases hentry
    rw [List.lookup_append, h, Option.none_or]
    simp
  added := by simp
  nodup hnodup := by
    rw [List.map_append, List.nodup_append]
    refine ⟨hnodup, by simp, ?_⟩
    rintro first hfirst last hlast rfl
    simp only [List.map_cons, List.map_nil, List.mem_singleton] at hlast
    exact notMem_of_lookup_eq_none h (hlast ▸ hfirst)

/-- What an entry found before or meanwhile clashes with is found before or meanwhile too. -/
theorem clashes (hfirst : Hoisted before entries middle)
    (h : Clashes ({entry | entry ∈ middle} ∪ others) name) :
    Clashes ({entry | entry ∈ before} ∪ (entries ∪ others)) name := by
  refine h.mono ?_
  rintro entry (hentry | hentry)
  · exact (hfirst.added entry hentry).imp id .inl
  · exact .inr (.inr hentry)

end Hoisted

/-! ### Actions -/

theorem run_hoist (name : String) (shape : Shape) (table : Table) :
    (hoist name shape).run table = match table.lookup name with
      | some previous =>
        if previous = shape then .ok ((), table) else .error { cause := .redefined name }
      | none => .ok ((), table ++ [(name, shape)]) := by
  cases hlookup : table.lookup name with
  | none =>
    simp only [hoist, StateT.run_bind, StateT.run_get, pure_bind, hlookup]
    rfl
  | some previous =>
    simp only [hoist, StateT.run_bind, StateT.run_get, pure_bind, hlookup]
    by_cases hprevious : previous = shape
    · rw [if_neg (not_not.mpr hprevious), if_pos hprevious]
      rfl
    · rw [if_pos hprevious, if_neg hprevious]
      rfl

theorem run_inContext (context : String) (action : Lower α) (table : Table) :
    (inContext context action).run table = (action.run table).mapError (Error.within context) := rfl

/-- The action takes in `entries` and gives a value with a property. Where it fails with a
redefinition, the name has different shapes among what it found and what it takes in. -/
structure Lowers (action : Lower α) (entries : Set (String × Shape)) (property : α → Prop) :
    Prop where
  ok : ∀ before value after, action.run before = .ok (value, after) →
    property value ∧ Hoisted before entries after
  error : ∀ before error name, action.run before = .error error → error.cause = .redefined name →
    Clashes ({entry | entry ∈ before} ∪ entries) name

namespace Lowers

variable {action : Lower α} {next : α → Lower β} {entries others : Set (String × Shape)}
  {property : α → Prop} {later : β → Prop}

theorem pure {value : α} (h : property value) : Lowers (pure value) ∅ property where
  ok before _ _ hrun := by
    cases hrun
    exact ⟨h, .refl before⟩
  error _ _ _ hrun := by cases hrun

theorem fail (h : ∀ name, cause ≠ .redefined name) : Lowers (fail cause) entries property where
  ok _ _ _ hrun := by cases hrun
  error _ _ name hrun hcause := by
    cases hrun
    exact absurd hcause (h name)

theorem bind (haction : Lowers action entries property)
    (hnext : ∀ value, property value → Lowers (next value) others later) :
    Lowers (action >>= next) (entries ∪ others) later where
  ok before value after hrun := by
    rw [StateT.run_bind] at hrun
    obtain ⟨⟨first, middle⟩, hfirst, hrun⟩ := Outcome.bind_eq_ok_iff.mp hrun
    obtain ⟨hproperty, hgrown⟩ := haction.ok _ _ _ hfirst
    obtain ⟨hlater, hgrown'⟩ := (hnext first hproperty).ok _ _ _ hrun
    exact ⟨hlater, hgrown.trans hgrown'⟩
  error before error name hrun hcause := by
    rw [StateT.run_bind] at hrun
    rcases Outcome.bind_eq_error_iff.mp hrun with hrun | ⟨⟨first, middle⟩, hfirst, hrun⟩
    · exact (haction.error _ _ _ hrun hcause).mono
        (Set.union_subset_union_right _ Set.subset_union_left)
    · obtain ⟨hproperty, hgrown⟩ := haction.ok _ _ _ hfirst
      exact hgrown.clashes ((hnext first hproperty).error _ _ _ hrun hcause)

theorem fail_bind (h : ∀ name, cause ≠ .redefined name) :
    Lowers (Lowering.fail cause >>= next) entries later :=
  fail h

theorem guard {condition : Prop} [Decidable condition] (h : ∀ name, cause ≠ .redefined name)
    (haction : Lowers action entries property) :
    Lowers (do
      if condition then Lowering.fail cause
      action) entries property := by
  split
  · exact fail_bind h
  · exact haction

theorem mono {weaker : α → Prop} (haction : Lowers action entries property)
    (h : ∀ value, property value → weaker value) : Lowers action entries weaker where
  ok before value after hrun := (haction.ok before value after hrun).imp_left (h value)
  error := haction.error

theorem map {f : α → β} (haction : Lowers action entries property)
    (h : ∀ value, property value → later (f value)) : Lowers (f <$> action) entries later := by
  rw [← bind_pure_comp, ← Set.union_empty entries]
  exact haction.bind fun value hvalue ↦ .pure (h value hvalue)

theorem inContext (context : String) (haction : Lowers action entries property) :
    Lowers (inContext context action) entries property where
  ok before value after hrun := by
    rw [run_inContext] at hrun
    exact haction.ok _ _ _ (Outcome.mapError_eq_ok_iff.mp hrun)
  error before error name hrun hcause := by
    rw [run_inContext] at hrun
    obtain ⟨inner, hinner, rfl⟩ := Outcome.mapError_eq_error_iff.mp hrun
    exact haction.error _ inner name hinner hcause

theorem forM {items : List ι} {step : ι → Lower Unit} {taken : ι → Set (String × Shape)}
    {fact : ι → Prop} (h : ∀ item ∈ items, Lowers (step item) (taken item) fun _ ↦ fact item) :
    Lowers (items.forM step) (⋃ item ∈ items, taken item) fun _ ↦ ∀ item ∈ items, fact item := by
  induction items with
  | nil =>
    rw [biUnion_nil]
    exact .pure (by simp)
  | cons item rest ih =>
    obtain ⟨hitem, hrest⟩ := List.forall_mem_cons.mp h
    rw [biUnion_cons]
    exact hitem.bind fun _ hfact ↦ (ih hrest).mono fun _ hfacts ↦
      List.forall_mem_cons.mpr ⟨hfact, hfacts⟩

theorem mapM {items : List ι} {step : ι → Lower β} {taken : ι → Set (String × Shape)}
    (h : ∀ item ∈ items, Lowers (step item) (taken item) fun _ ↦ True) :
    Lowers (items.mapM step) (⋃ item ∈ items, taken item) fun _ ↦ True := by
  induction items with
  | nil =>
    rw [biUnion_nil]
    exact .pure trivial
  | cons item rest ih =>
    obtain ⟨hitem, hrest⟩ := List.forall_mem_cons.mp h
    rw [biUnion_cons, List.mapM_cons]
    exact hitem.bind fun _ _ ↦ (ih hrest).map fun _ _ ↦ trivial

theorem hoist (name : String) (shape : Shape) :
    Lowers (hoist name shape) {(name, shape)} fun _ ↦ True where
  ok before value after hrun := by
    rw [run_hoist] at hrun
    split at hrun
    next previous hlookup =>
      split at hrun
      next hprevious =>
        cases hrun
        exact ⟨trivial, .of_lookup (hprevious ▸ hlookup)⟩
      next => cases hrun
    next hlookup =>
      cases hrun
      exact ⟨trivial, .append hlookup⟩
  error before error redefined hrun hcause := by
    rw [run_hoist] at hrun
    split at hrun
    next previous hlookup =>
      split at hrun
      next => cases hrun
      next hprevious =>
        cases hrun
        cases hcause
        exact ⟨previous, shape, .inl (mem_of_lookup hlookup), .inr rfl, hprevious⟩
    next => cases hrun

end Lowers

end FlowSpec.Lowering
