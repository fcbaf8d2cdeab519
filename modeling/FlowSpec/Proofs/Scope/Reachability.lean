import FlowSpec.Proofs.Scope.Settling
import FlowSpec.Proofs.Scope.Tree
import Mathlib.Logic.Relation

/-!
The tree of a type holds exactly the types that its name leads to. The search for them has one
result, also without a bound, so it ends on every scope, with cycles and with names that stand for
nothing. What it adds is reached by the names it was given, and what is reached is found, because
the types that were found are closed under what they mention.
-/

set_option autoImplicit false

namespace FlowSpec.Scope

open Relation

variable {scope : Scope} {name : String} {names : List String} {type : NamedType}
  {found result : List NamedType}

/-! ### What a name leads to -/

/-- One of the names that the first type mentions stands for the second. -/
def Mentions (scope : Scope) (type target : NamedType) : Prop :=
  ∃ reference ∈ type.shape.references, scope.lookup? reference = some target

/-- The type is the one that the name stands for, or is mentioned by it, directly or through
others. -/
def Reaches (scope : Scope) (name : String) (type : NamedType) : Prop :=
  ∃ start, scope.lookup? name = some start ∧ ReflTransGen scope.Mentions start type

theorem Reaches.of_reference {reference : String} (hlookup : scope.lookup? name = some type)
    (hreference : reference ∈ type.shape.references) {target : NamedType}
    (h : scope.Reaches reference target) :
    scope.Reaches name target := by
  obtain ⟨start, hstart, hpath⟩ := h
  exact ⟨type, hlookup, .head ⟨reference, hreference, hstart⟩ hpath⟩

/-! ### The search without a bound -/

namespace Collects

/-- A search has one result. -/
theorem unique {other : List NamedType} (h : Collects scope names found result)
    (hother : Collects scope names found other) : result = other := by
  induction h generalizing other with
  | nil found =>
    cases hother
    rfl
  | absent hlookup _ ih =>
    cases hother with
    | absent _ hrest => exact ih hrest
    | known hsome => simp [hlookup] at hsome
    | enter hsome => simp [hlookup] at hsome
  | known hlookup hknown _ ih =>
    cases hother with
    | absent hnone => simp [hlookup] at hnone
    | known _ _ hrest => exact ih hrest
    | enter hsome hnew =>
      rw [hlookup, Option.some.injEq] at hsome
      exact absurd (hsome ▸ hknown) hnew
  | enter hlookup hnew _ _ ihreferences ihrest =>
    cases hother with
    | absent hnone => simp [hlookup] at hnone
    | known hsome hknown =>
      rw [hlookup, Option.some.injEq] at hsome
      exact absurd (hsome ▸ hknown) hnew
    | enter hsome _ hreferences hrest =>
      rw [hlookup, Option.some.injEq] at hsome
      subst hsome
      rw [← ihreferences hreferences] at hrest
      exact ihrest hrest

/-- What a search adds is reached by one of the names. -/
theorem reaches (h : Collects scope names found result) (htype : type ∈ result) :
    type ∈ found ∨ ∃ name ∈ names, scope.Reaches name type := by
  induction h with
  | nil found => exact Or.inl htype
  | absent _ _ ih | known _ _ _ ih =>
    refine (ih htype).imp id ?_
    rintro ⟨name, hname, hreaches⟩
    exact ⟨name, List.mem_cons_of_mem _ hname, hreaches⟩
  | @enter first names entered found middle result hlookup _ _ _ ihreferences ihrest =>
    rcases ihrest htype with hmiddle | ⟨name, hname, hreaches⟩
    · rcases ihreferences hmiddle with hfound | ⟨reference, hreference, hreaches⟩
      · rcases List.mem_append.mp hfound with hfound | hentered
        · exact Or.inl hfound
        · rw [List.mem_singleton.mp hentered]
          exact Or.inr ⟨first, List.mem_cons_self, entered, hlookup, .refl⟩
      · exact Or.inr ⟨first, List.mem_cons_self, .of_reference hlookup hreference hreaches⟩
    · exact Or.inr ⟨name, List.mem_cons_of_mem _ hname, hreaches⟩

end Collects

/-! ### The tree -/

section Tree

variable (hnames : (scope.types.map NamedType.name).Nodup)

include hnames

theorem reaches_of_mem_tree (h : type ∈ scope.tree name) : scope.Reaches name type := by
  rcases (collects_tree hnames name).reaches (mem_tree_iff.mp h) with hnil |
    ⟨other, hother, hreaches⟩
  · exact absurd hnil List.not_mem_nil
  · rwa [List.mem_singleton.mp hother] at hreaches

theorem mem_tree_of_lookup? (h : scope.lookup? name = some type) : type ∈ scope.tree name :=
  mem_tree_iff.mpr ((searched_tree hnames name).reaches name (List.mem_singleton_self name) type h)

theorem mem_tree_of_reaches (h : scope.Reaches name type) : type ∈ scope.tree name := by
  obtain ⟨start, hstart, hpath⟩ := h
  induction hpath with
  | refl => exact mem_tree_of_lookup? hnames hstart
  | tail _ hlast ih =>
    obtain ⟨reference, hreference, htarget⟩ := hlast
    exact mem_tree_of_reference hnames ih hreference htarget

theorem pairwise_lt_tree (name : String) :
    (scope.tree name).Pairwise fun a b ↦ a.name < b.name := by
  have hsearched := searched_tree hnames name
  refine Text.pairwise_lt_sortByName _ _
    (hsearched.nodup.map_on fun first hfirst second hsecond heq ↦ ?_)
  exact List.inj_on_of_nodup_map hnames (hsearched.subset hfirst) (hsearched.subset hsecond) heq

theorem tree_eq_nil_iff (name : String) : scope.tree name = [] ↔ scope.lookup? name = none := by
  constructor
  · intro hnil
    cases hlookup : scope.lookup? name with
    | none => rfl
    | some type =>
      have hmem := mem_tree_of_lookup? hnames hlookup
      rw [hnil] at hmem
      exact absurd hmem List.not_mem_nil
  · intro hnone
    refine List.eq_nil_iff_forall_not_mem.mpr fun type htype ↦ ?_
    obtain ⟨start, hstart, -⟩ := reaches_of_mem_tree hnames htype
    rw [hnone] at hstart
    cases hstart

end Tree

/-- On every sealed scope the search for a name ends, with one result, and the tree is that result
in the order of names: each type once, and exactly the types that the name leads to. It is empty if
the name stands for nothing, and only then. -/
theorem tree_exact (h : scope.Sealed) (name : String) :
    (∃ found, (∀ result, Collects scope [name] [] result ↔ result = found) ∧
        scope.tree name = Text.sortByName NamedType.name found) ∧
      ((scope.tree name).Pairwise fun a b ↦ a.name < b.name) ∧
      (∀ type, type ∈ scope.tree name ↔ scope.Reaches name type) ∧
      (scope.tree name = [] ↔ scope.lookup? name = none) := by
  have hnames := h.nodup
  have hcollects := collects_tree hnames name
  refine ⟨⟨_, fun result ↦ ⟨fun hresult ↦ hresult.unique hcollects, ?_⟩, rfl⟩,
    pairwise_lt_tree hnames name, fun type ↦
      ⟨reaches_of_mem_tree hnames, mem_tree_of_reaches hnames⟩, tree_eq_nil_iff hnames name⟩
  rintro rfl
  exact hcollects

/-! ### Orders and their lines -/

/-- Orders and lines mention each other; the price tag is mentioned by another spelling, and the
note stands for nothing. -/
def linesScope : Scope :=
  { types :=
      [{ name := "lines", shape := .list "order" },
        { name := "order", shape := .object [{ name := "lines", type := "lines" },
          { name := "tag", type := "price-tag" }, { name := "note", type := "note" }] },
        { name := "price_tag", shape := .primitive .u32 },
        { name := "shop", shape := .primitive .string }] }

theorem sealed_linesScope : linesScope.Sealed :=
  sealed_of_isSettled (by decide) (by decide) (by simp [NamedType.IsSettled])

theorem tree_exact_lines :
    linesScope.Sealed ∧
      (linesScope.tree "order").map NamedType.name = ["lines", "order", "price_tag"] ∧
      (∀ type, type ∈ linesScope.tree "order" ↔ linesScope.Reaches "order" type) ∧
      (linesScope.tree "note" = [] ↔ linesScope.lookup? "note" = none) := by
  have hnames : (linesScope.tree "order").map NamedType.name = ["lines", "order", "price_tag"] := by
    cbv
  obtain ⟨-, -, hreaches, -⟩ := tree_exact sealed_linesScope "order"
  obtain ⟨-, -, -, hempty⟩ := tree_exact sealed_linesScope "note"
  exact ⟨sealed_linesScope, hnames, hreaches, hempty⟩

end FlowSpec.Scope
