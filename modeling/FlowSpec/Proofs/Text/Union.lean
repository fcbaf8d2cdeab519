import FlowSpec.Text.Order
import Mathlib.Data.List.Sort

/-!
Unions of lists. Two lists that are put together, sorted by a key that tells their items apart, and
rid of neighbours that are equal hold every item of both lists once, in strictly ascending order. A
list that ascends strictly is told by its members, so there is one such union only.
-/

set_option autoImplicit false

namespace FlowSpec.Text

variable {α β : Type}

/-! ### Repetitions -/

theorem mem_dropRepeats [DecidableEq α] {items : List α} {item : α} :
    item ∈ dropRepeats items ↔ item ∈ items := by
  fun_induction dropRepeats items with
  | case1 => rfl
  | case2 => rfl
  | case3 first rest ih => simp [ih]
  | case4 first second rest hne ih => simp [ih]

/-- Where the keys of a list ascend and tell the items apart, those of the list without repetitions
ascend strictly. -/
theorem pairwise_lt_dropRepeats [DecidableEq α] [LinearOrder β] {key : α → β}
    (hkey : Function.Injective key) {items : List α} (h : items.Pairwise fun a b ↦ key a ≤ key b) :
    (dropRepeats items).Pairwise fun a b ↦ key a < key b := by
  fun_induction dropRepeats items with
  | case1 => exact .nil
  | case2 item => exact List.pairwise_singleton _ item
  | case3 first rest ih => exact ih (List.pairwise_cons.mp h).2
  | case4 first second rest hne ih =>
    obtain ⟨hfirst, hrest⟩ := List.pairwise_cons.mp h
    have hlt : key first < key second :=
      lt_of_le_of_ne (hfirst second List.mem_cons_self) (hkey.ne hne)
    refine List.pairwise_cons.mpr ⟨fun item hitem ↦ ?_, ih hrest⟩
    rcases List.mem_cons.mp (mem_dropRepeats.mp hitem) with rfl | hitem
    · exact hlt
    · exact hlt.trans_le ((List.pairwise_cons.mp hrest).1 item hitem)

/-! ### Unions -/

/-- The list holds what the first two lists hold, each item once, in the order of a relation. -/
structure IsUnion (before : α → α → Prop) (first second union : List α) : Prop where
  ascending : union.Pairwise before
  mem_iff : ∀ item, item ∈ union ↔ item ∈ first ∨ item ∈ second

namespace IsUnion

variable {before : α → α → Prop} {first second third left right union other : List α}

theorem comm (h : IsUnion before first second union) : IsUnion before second first union :=
  ⟨h.ascending, fun item ↦ (h.mem_iff item).trans or_comm⟩

/-- What is there already adds nothing. -/
theorem again (h : IsUnion before first second union) : IsUnion before union second union :=
  ⟨h.ascending, fun item ↦ by simp [h.mem_iff item]⟩

/-- The union of three lists, the first two of which were united before. -/
theorem assoc (hleft : IsUnion before first second left)
    (hright : IsUnion before second third right) (h : IsUnion before left third union) :
    IsUnion before first right union := by
  refine ⟨h.ascending, fun item ↦ ?_⟩
  rw [h.mem_iff, hleft.mem_iff, hright.mem_iff, or_assoc]

theorem unique [Std.Antisymm before] [Std.Irrefl before] (h : IsUnion before first second union)
    (h' : IsUnion before first second other) : union = other :=
  h.ascending.eq_of_mem_iff h'.ascending fun item ↦ (h.mem_iff item).trans (h'.mem_iff item).symm

end IsUnion

/-- Sorting by a key that tells the items apart, and dropping repetitions, makes the union of two
lists. -/
theorem isUnion_dropRepeats_mergeSort [DecidableEq α] [LinearOrder β] {key : α → β}
    (hkey : Function.Injective key) {le : α → α → Bool} (hle : ∀ a b, le a b ↔ key a ≤ key b)
    (first second : List α) :
    IsUnion (fun a b ↦ key a <
      key b) first second (dropRepeats ((first ++ second).mergeSort le)) where
  ascending := by
    have hsorted := @List.pairwise_mergeSort α le
      (fun a b c hab hbc ↦ (hle a c).mpr (((hle a b).mp hab).trans ((hle b c).mp hbc)))
      (fun a b ↦ by simpa [hle] using le_total (key a) (key b)) (first ++ second)
    exact pairwise_lt_dropRepeats hkey (hsorted.imp fun hab ↦ (hle _ _).mp hab)
  mem_iff := fun item ↦ by rw [mem_dropRepeats, List.mem_mergeSort, List.mem_append]

end FlowSpec.Text
