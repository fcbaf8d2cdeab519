import FlowSpec.Proofs.Scope.Declarations
import Mathlib.Data.List.Perm.Subperm

/-!
The tree of a type is closed: with a type it holds whatever the names that the type mentions stand
for. The search is told without a bound first (`Collects`): a name that stands for nothing, or for a
type that is found already, is passed over, and the names that a new type mentions come before those
that are left. The search with fuel is that search. It gives every level of nesting one unit, and a
level that goes deeper has found a type that was not found before, so fuel that exceeds the number
of types still to be found never runs out.
-/

set_option autoImplicit false

namespace FlowSpec.Scope

variable {scope : Scope} {fuel : Nat} {name : String} {names : List String} {type : NamedType}
  {found middle result : List NamedType}

/-! ### The search without a bound -/

/-- A search for names, one after the other, that starts with the types found so far and ends with a
result. -/
inductive Collects (scope : Scope) : List String → List NamedType → List NamedType → Prop
  | nil (found : List NamedType) : Collects scope [] found found
  | absent {name : String} {names : List String} {found result : List NamedType}
      (hlookup : scope.lookup? name = none) (hrest : Collects scope names found result) :
      Collects scope (name :: names) found result
  | known {name : String} {names : List String} {type : NamedType} {found result : List NamedType}
      (hlookup : scope.lookup? name = some type) (hknown : type.name ∈ found.map NamedType.name)
      (hrest : Collects scope names found result) : Collects scope (name :: names) found result
  | enter {name : String} {names : List String} {type : NamedType}
      {found middle result : List NamedType} (hlookup : scope.lookup? name = some type)
      (hnew : type.name ∉ found.map NamedType.name)
      (hreferences : Collects scope type.shape.references (found ++ [type]) middle)
      (hrest : Collects scope names middle result) : Collects scope (name :: names) found result

/-- One name before others. -/
theorem Collects.cons (h : Collects scope [name] found middle)
    (hrest : Collects scope names middle result) : Collects scope (name :: names) found result := by
  cases h with
  | absent hlookup hnil =>
    cases hnil
    exact .absent hlookup hrest
  | known hlookup hknown hnil =>
    cases hnil
    exact .known hlookup hknown hrest
  | enter hlookup hnew hreferences hnil =>
    cases hnil
    exact .enter hlookup hnew hreferences hrest

/-- What a search for the types of names has found: those types, and with every type that it has
added all that the type mentions. -/
structure Searched (scope : Scope) (names : List String) (found result : List NamedType) :
    Prop where
  nodup : result.Nodup
  subset : result ⊆ scope.types
  keeps : found ⊆ result
  reaches : ∀ name ∈ names, ∀ type, scope.lookup? name = some type → type ∈ result
  closed : ∀ type ∈ result, type ∉ found → ∀ reference ∈ type.shape.references,
    ∀ target, scope.lookup? reference = some target → target ∈ result

/-- A name that stands for nothing, or for a type that is found. -/
theorem Searched.pass (hreached : ∀ type, scope.lookup? name = some type → type ∈ found)
    (h : Searched scope names found result) : Searched scope (name :: names) found result where
  nodup := h.nodup
  subset := h.subset
  keeps := h.keeps
  reaches := List.forall_mem_cons.mpr ⟨fun type htype ↦ h.keeps (hreached type htype), h.reaches⟩
  closed := h.closed

/-- A name whose type is added, and then all that it mentions. -/
theorem Searched.enter (hlookup : scope.lookup? name = some type)
    (h : Searched scope type.shape.references (found ++ [type]) middle)
    (h' : Searched scope names middle result) :
    Searched scope (name :: names) found result where
  nodup := h'.nodup
  subset := h'.subset
  keeps := fun _ hmem ↦ h'.keeps (h.keeps (List.mem_append_left _ hmem))
  reaches := by
    refine List.forall_mem_cons.mpr ⟨fun other hother ↦ ?_, h'.reaches⟩
    rw [hlookup] at hother
    cases hother
    exact h'.keeps (h.keeps (List.mem_append_right _ (List.mem_singleton_self type)))
  closed := by
    intro other hother hnew reference hreference target htarget
    by_cases hmiddle : other ∈ middle
    · refine h'.keeps ?_
      by_cases heq : other = type
      · exact h.reaches reference (heq ▸ hreference) target htarget
      · exact h.closed other hmiddle (by simp [hnew, heq]) reference hreference target htarget
    · exact h'.closed other hother hmiddle reference hreference target htarget

theorem nodup_concat (h : found.Nodup) (hnew : type ∉ found) : (found ++ [type]).Nodup := by
  rw [← List.concat_eq_append]
  exact .concat hnew h

theorem concat_subset_types (h : found ⊆ scope.types) (htype : type ∈ scope.types) :
    found ++ [type] ⊆ scope.types :=
  List.append_subset.mpr ⟨h, List.cons_subset.mpr ⟨htype, List.nil_subset _⟩⟩

/-- A search that starts with different types of the scope. -/
theorem Collects.searched (hnames : (scope.types.map NamedType.name).Nodup)
    (h : Collects scope names found result) (hnodup : found.Nodup) (hsubset : found ⊆ scope.types) :
    Searched scope names found result := by
  induction h with
  | nil found =>
    exact ⟨hnodup, hsubset, List.Subset.refl found, by simp, fun _ hmem hnew ↦ absurd hmem hnew⟩
  | absent hlookup _ ih => exact (ih hnodup hsubset).pass (by simp [hlookup])
  | known hlookup hknown _ ih =>
    refine (ih hnodup hsubset).pass fun type htype ↦ ?_
    rw [hlookup] at htype
    cases htype
    obtain ⟨other, hother, hname⟩ := List.mem_map.mp hknown
    exact List.inj_on_of_nodup_map hnames (hsubset hother) (mem_of_lookupType hlookup) hname ▸
      hother
  | enter hlookup hnew _ _ ihreferences ihrest =>
    have hfirst := ihreferences (nodup_concat hnodup fun hmem ↦ hnew (List.mem_map_of_mem hmem))
      (concat_subset_types hsubset (mem_of_lookupType hlookup))
    exact .enter hlookup hfirst (ihrest hfirst.nodup hfirst.subset)

/-! ### The search with fuel -/

/-- A search with these types found has fuel for all that are left. -/
structure Fuelled (scope : Scope) (fuel : Nat) (found : List NamedType) : Prop where
  nodup : found.Nodup
  subset : found ⊆ scope.types
  enough : scope.size < fuel + found.length

theorem Fuelled.positive (h : Fuelled scope fuel found) : 0 < fuel := by
  have hlength : found.length ≤ scope.size := (h.nodup.subperm h.subset).length_le
  have henough := h.enough
  omega

theorem Fuelled.after (h : Fuelled scope fuel found)
    (hsearched : Searched scope names found result) :
    Fuelled scope fuel result where
  nodup := hsearched.nodup
  subset := hsearched.subset
  enough := by
    have hlength : found.length ≤ result.length := (h.nodup.subperm hsearched.keeps).length_le
    have henough := h.enough
    omega

theorem Fuelled.push (h : Fuelled scope (fuel + 1) found) (htype : type ∈ scope.types)
    (hnew : type ∉ found) : Fuelled scope fuel (found ++ [type]) where
  nodup := nodup_concat h.nodup hnew
  subset := concat_subset_types h.subset htype
  enough := by
    have henough := h.enough
    rw [List.length_append, List.length_singleton]
    omega

section Fuel

variable (hnames : (scope.types.map NamedType.name).Nodup)

include hnames

theorem collects_collectAll
    (hcollect : ∀ name found, Fuelled scope fuel found →
      Collects scope [name] found (scope.collect fuel name found))
    (names : List String) (h : Fuelled scope fuel found) :
    Collects scope names found (scope.collectAll fuel names found) := by
  induction names generalizing found with
  | nil =>
    rw [collectAll]
    exact .nil found
  | cons name rest ih =>
    rw [collectAll]
    have hfirst := hcollect name found h
    exact hfirst.cons (ih (h.after (hfirst.searched hnames h.nodup h.subset)))

/-- Fuel for all types that are left is enough for the search without a bound. -/
theorem collects_collect (fuel : Nat) : ∀ name found, Fuelled scope fuel found →
    Collects scope [name] found (scope.collect fuel name found) := by
  induction fuel with
  | zero => exact fun name found h ↦ absurd h.positive (Nat.lt_irrefl 0)
  | succ fuel ih =>
    intro name found h
    rw [collect]
    cases hlookup : scope.lookup? name with
    | none => exact .absent hlookup (.nil found)
    | some type =>
      have hmem := mem_of_lookupType hlookup
      have hany : (found.any fun other ↦ other.name == type.name) = true ↔
          type.name ∈ found.map NamedType.name := by
        simp [List.mem_map]
      dsimp only
      split_ifs with hfound
      · exact .known hlookup (hany.mp hfound) (.nil found)
      · have hnew : type.name ∉ found.map NamedType.name := fun hknown ↦ hfound (hany.mpr hknown)
        have hpush := h.push hmem fun htype ↦ hnew (List.mem_map_of_mem htype)
        exact .enter hlookup hnew (collects_collectAll hnames ih type.shape.references hpush)
          (.nil _)

theorem collects_tree (name : String) :
    Collects scope [name] [] (scope.collect (scope.size + 1) name []) :=
  collects_collect hnames _ name [] ⟨List.nodup_nil, List.nil_subset _, by simp⟩

end Fuel

/-! ### The tree -/

theorem searched_tree (hnames : (scope.types.map NamedType.name).Nodup) (name : String) :
    Searched scope [name] [] (scope.collect (scope.size + 1) name []) :=
  (collects_tree hnames name).searched hnames List.nodup_nil (List.nil_subset _)

theorem mem_tree_iff : type ∈ scope.tree name ↔ type ∈ scope.collect (scope.size + 1) name [] :=
  Text.mem_sortByName

theorem mem_types_of_mem_tree (hnames : (scope.types.map NamedType.name).Nodup)
    (h : type ∈ scope.tree name) : type ∈ scope.types :=
  (searched_tree hnames name).subset (mem_tree_iff.mp h)

/-- The tree holds what the names stand for that its types mention. -/
theorem mem_tree_of_reference {reference : String} {target : NamedType}
    (hnames : (scope.types.map NamedType.name).Nodup) (h : type ∈ scope.tree name)
    (hreference : reference ∈ type.shape.references)
    (htarget : scope.lookup? reference = some target) :
    target ∈ scope.tree name :=
  mem_tree_iff.mpr
    ((searched_tree hnames name).closed type (mem_tree_iff.mp h) List.not_mem_nil reference
    hreference target htarget)

end FlowSpec.Scope
