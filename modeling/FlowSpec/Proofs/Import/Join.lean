import FlowSpec.Import
import FlowSpec.Proofs.Text.Union
import Mathlib.Data.Prod.Lex
import Mathlib.Data.String.Basic

/-!
Merging is a join. The lists of a merged import are the unions of the lists of both imports, in
strictly ascending order, and the package and its path are those of the first. Since there is one
such import only (`joins_iff`), it does not matter in which order imports are merged, how they are
grouped and whether one is merged again.
-/

set_option autoImplicit false

namespace FlowSpec

/-! ### The order of functions -/

namespace FunctionImport

/-- Comes first by its name, or by its alias where the names are the same. -/
def Before (first second : FunctionImport) : Prop :=
  first.name < second.name ∨ first.name = second.name ∧ first.asName < second.asName

/-- What functions are sorted by. -/
def rank (function : FunctionImport) : String ×ₗ String := toLex (function.name, function.asName)

theorem rank_injective : Function.Injective rank := by
  rintro ⟨name, asName⟩ ⟨otherName, otherAsName⟩ h
  obtain ⟨rfl, rfl⟩ := Prod.mk.inj (toLex_inj.mp h)
  rfl

theorem rank_lt_rank_iff {first second : FunctionImport} :
    first.rank < second.rank ↔ first.Before second :=
  Prod.Lex.toLex_lt_toLex

theorem functionBefore_iff (first second : FunctionImport) :
    Import.functionBefore first second ↔ first.rank ≤ second.rank := by
  simp [Import.functionBefore, rank, Prod.Lex.toLex_le_toLex]

theorem before_eq : Before = fun first second ↦ first.rank < second.rank := by
  funext first second
  exact propext rank_lt_rank_iff.symm

instance : Std.Irrefl Before := ⟨fun _ h ↦ lt_irrefl _ (rank_lt_rank_iff.mpr h)⟩

instance : Std.Antisymm Before :=
  ⟨fun _ _ h h' ↦ absurd (rank_lt_rank_iff.mpr h') (rank_lt_rank_iff.mpr h).not_gt⟩

end FunctionImport

namespace Import

open Text

/-! ### Joins -/

/-- The import is the first with the names that the second lists besides. -/
structure Joins (first second joined : Import) : Prop where
  package : joined.package = first.package
  path : joined.path = first.path
  types : IsUnion (· < ·) first.types second.types joined.types
  states : IsUnion (· < ·) first.states second.states joined.states
  functions : IsUnion FunctionImport.Before first.functions second.functions joined.functions

theorem isUnion_mergeNames (first second : List String) :
    IsUnion (· < ·) first second (mergeNames first second) :=
  isUnion_dropRepeats_mergeSort Function.injective_id (fun _ _ ↦ decide_eq_true_iff) first second

theorem isUnion_mergeFunctions (first second : List FunctionImport) :
    IsUnion FunctionImport.Before first second (mergeFunctions first second) := by
  rw [FunctionImport.before_eq]
  exact isUnion_dropRepeats_mergeSort FunctionImport.rank_injective
    FunctionImport.functionBefore_iff first second

variable {first second third joined left right : Import}

theorem joins_merge (first second : Import) : Joins first second (first.merge second) where
  package := rfl
  path := rfl
  types := isUnion_mergeNames first.types second.types
  states := isUnion_mergeNames first.states second.states
  functions := isUnion_mergeFunctions first.functions second.functions

/-- The merged import is the one join. -/
theorem joins_iff : Joins first second joined ↔ joined = first.merge second := by
  constructor
  · intro h
    have hmerge := joins_merge first second
    obtain ⟨package, path, types, states, functions⟩ := joined
    obtain rfl : package = first.package := h.package
    obtain rfl : path = first.path := h.path
    obtain rfl : types = _ := h.types.unique hmerge.types
    obtain rfl : states = _ := h.states.unique hmerge.states
    obtain rfl : functions = _ := h.functions.unique hmerge.functions
    rfl
  · rintro rfl
    exact joins_merge first second

theorem Joins.again (h : Joins first second joined) : Joins joined second joined :=
  ⟨rfl, rfl, h.types.again, h.states.again, h.functions.again⟩

theorem Joins.assoc (hleft : Joins first second left) (hright : Joins second third right)
    (h : Joins left third joined) : Joins first right joined where
  package := h.package.trans hleft.package
  path := h.path.trans hleft.path
  types := hleft.types.assoc hright.types h.types
  states := hleft.states.assoc hright.states h.states
  functions := hleft.functions.assoc hright.functions h.functions

/-- Merging makes the one join of two imports. An import that is merged again changes nothing, the
lists do not tell which import came first, and three imports can be merged from the left or from the
right. -/
theorem merge_is_join (first second third : Import) :
    (∀ joined, Joins first second joined ↔ joined = first.merge second) ∧
      (first.merge second).merge second = first.merge second ∧
      ((first.merge second).types = (second.merge first).types ∧
        (first.merge second).states = (second.merge first).states ∧
        (first.merge second).functions = (second.merge first).functions) ∧
      (first.merge second).merge third = first.merge (second.merge third) := by
  have hmerge := joins_merge first second
  have hswapped := joins_merge second first
  refine ⟨fun _ ↦ joins_iff, (joins_iff.mp hmerge.again).symm, ⟨?_, ?_, ?_⟩, ?_⟩
  · exact hmerge.types.unique hswapped.types.comm
  · exact hmerge.states.unique hswapped.states.comm
  · exact hmerge.functions.unique hswapped.functions.comm
  · exact joins_iff.mp
      (hmerge.assoc (joins_merge second third) (joins_merge (first.merge second) third))

end Import

end FlowSpec
