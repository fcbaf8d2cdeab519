import FlowSpec.Proofs.Outcome
import FlowSpec.Proofs.Package.Graph
import Mathlib.Data.List.Perm.Subperm

/-!
Sorting of packages by their imports. A visit starts from an order and a stack of packages whose
imports are being visited; each package of the stack imports the one above it, and none of them is
in the order. A visit that succeeds adds packages that can be reached and none of the stack. A visit
that fails has met a key without a package, or a package of the stack, and then the part of the
stack above it is a cycle. The stack never holds a package twice, so a visit does not run out of
depth.
-/

set_option autoImplicit false

namespace FlowSpec.Package

open Relation Outcome

variable {index packages : List Package} {roots : List Import} {package : Package} {error : Error}

/-! ### Errors -/

/-- What an error says of the graph of imports: a key that is named has no package, or the packages
of the path are a circle in which each imports the next. -/
inductive Truthful (packages : List Package) (roots : List Import) : Error → Prop
  | missing {key suggestion : String} (hnamed : NamesKey packages roots key)
      (habsent : byKey? key packages = none) : Truthful packages roots (.missing key suggestion)
  | cycle {package : Package} {inside : List Package}
      (hreachable : ∀ other ∈ package :: inside, Reachable packages roots other)
      (hchain : (package :: inside ++ [package]).IsChain (Imports packages)) :
      Truthful packages roots (.cycle package.header.key
        ((package :: inside ++ [package]).map fun other ↦ other.header.text))

theorem transGen_of_isChain {inside : List Package}
    (h : (package :: inside ++ [package]).IsChain (Imports packages)) :
    TransGen (Imports packages) package package := by
  -- every package of a chain is reached from the first one
  suffices hall : ∀ (rest : List Package) (first : Package),
      (first :: rest ++ [package]).IsChain (Imports packages) →
        TransGen (Imports packages) first package from hall inside package h
  intro rest
  induction rest with
  | nil =>
    intro first hfirst
    exact .single (List.isChain_pair.mp hfirst)
  | cons next rest ih =>
    intro first hfirst
    obtain ⟨himports, hnext⟩ := List.isChain_cons_cons.mp hfirst
    exact .head himports (ih next hnext)

/-- An error that is truthful excludes an order. -/
theorem Truthful.not_resolvable (h : Truthful packages roots error) :
    ¬ Resolvable packages roots := by
  intro hresolvable
  cases h with
  | missing hnamed habsent =>
    have hpresent := hresolvable.present _ hnamed
    rw [habsent] at hpresent
    exact Bool.false_ne_true hpresent
  | @cycle package inside hreachable hchain =>
    exact hresolvable.acyclic package (hreachable package List.mem_cons_self)
      (transGen_of_isChain hchain)

theorem lookup_eq_ok_iff {key : String} :
    lookup index key = .ok package ↔ byKey? key index = some package := by
  unfold lookup
  split <;> simp_all

theorem truthful_of_lookup {key : String} (hnamed : NamesKey index roots key)
    (h : lookup index key = .error error) : Truthful index roots error := by
  unfold lookup at h
  split at h
  · cases h
  · rename_i habsent
    cases h
    exact .missing hnamed habsent

theorem forall₂_of_dependencies {imported : List Package}
    (h : dependencies index package = .ok imported) :
    List.Forall₂ (fun self other ↦ byKey? self.package.key index =
      some other) package.imports imported :=
  (mapM_eq_ok_iff.mp h).imp fun _ _ hfound ↦ lookup_eq_ok_iff.mp hfound

theorem truthful_of_dependencies (hreachable : Reachable index roots package)
    (h : dependencies index package = .error error) : Truthful index roots error := by
  obtain ⟨self, hself, hfailed⟩ := exists_of_mapM_eq_error h
  exact truthful_of_lookup (Or.inr ⟨package, hreachable, self, hself, rfl⟩) hfailed

theorem truthful_indexPackages :
    Truthful (indexPackages packages) roots error ↔ Truthful packages roots error := by
  constructor
  · intro h
    cases h with
    | missing hnamed habsent =>
      rw [namesKey_indexPackages] at hnamed
      rw [byKey?_indexPackages] at habsent
      exact .missing hnamed habsent
    | cycle hreachable hchain =>
      rw [reachable_indexPackages] at hreachable
      rw [imports_indexPackages] at hchain
      exact .cycle hreachable hchain
  · intro h
    cases h with
    | missing hnamed habsent =>
      rw [← namesKey_indexPackages] at hnamed
      rw [← byKey?_indexPackages] at habsent
      exact .missing hnamed habsent
    | cycle hreachable hchain =>
      rw [← reachable_indexPackages] at hreachable
      rw [← imports_indexPackages] at hchain
      exact .cycle hreachable hchain

/-! ### Visits -/

/-- The state in which a package is visited. -/
structure Underway (index : List Package) (roots : List Import) (fuel : Nat)
    (stack order : List Package) : Prop where
  ordered : Ordered index order
  deep : index.length < fuel + stack.length
  nodup : stack.Nodup
  reachable : ∀ other ∈ stack, Reachable index roots other
  chain : stack.IsChain fun imported importer ↦ Imports index importer imported
  apart : ∀ other ∈ stack, other ∉ order

/-- What visiting `goals` makes of an order. -/
structure Visited (index stack order goals result : List Package) : Prop where
  ordered : Ordered index result
  grows : order ⊆ result
  reaches : goals ⊆ result
  sound : ∀ other ∈ result, other ∈ order ∨ ∃ goal ∈ goals, ReflTransGen (Imports index) goal other
  avoids : ∀ other ∈ stack, other ∈ result → other ∈ order

/-- A package that is visited from the top of the stack. -/
structure Due (index : List Package) (roots : List Import) (stack : List Package)
    (package : Package) : Prop where
  reachable : Reachable index roots package
  chain : (package :: stack).IsChain fun imported importer ↦ Imports index importer imported

variable {fuel : Nat} {stack order : List Package}

theorem Underway.positive (h : Underway index roots fuel stack order) : 0 < fuel := by
  have hsubset : stack ⊆ index := fun other hother ↦ (h.reachable other hother).indexed.mem
  have hlength := (h.nodup.subperm hsubset).length_le
  have hdeep := h.deep
  omega

/-- Reaching a package of the stack closes a cycle. -/
theorem truthful_cycleError (h : Underway index roots fuel stack order)
    (hdue : Due index roots stack package) (hmem : package ∈ stack) :
    Truthful index roots (cycleError stack package) := by
  have hindexed : ∀ other ∈ stack, Indexed index other := fun other hother ↦
    (h.reachable other hother).indexed
  -- the stack splits where the package stands in it
  obtain ⟨inside, below, hstack, houtside⟩ := List.eq_append_cons_of_mem hmem
  have hinside : stack.takeWhile (fun other ↦ other.header.key ≠ package.header.key) = inside := by
    rw [hstack, List.takeWhile_append_of_pos]
    · simp
    · intro other hother
      have hne : other ≠ package := fun heq ↦ houtside (heq ▸ hother)
      have hmem' : other ∈ stack := hstack ▸ List.mem_append_left _ hother
      simpa using fun hkey ↦ hne ((hindexed other hmem').eq_of_key hdue.reachable.indexed hkey)
  have hchain : (package :: inside ++ [package]).IsChain fun imported importer ↦
      Imports index importer imported := by
    refine hdue.chain.prefix ⟨below, ?_⟩
    rw [hstack]
    simp
  have hpath :
      package :: inside.reverse ++ [package] = (package :: inside ++ [package]).reverse := by simp
  rw [cycleError, hinside]
  refine .cycle ?_ ?_
  · intro other hother
    rcases List.mem_cons.mp hother with rfl | hother
    · exact hdue.reachable
    · exact h.reachable other (hstack ▸ List.mem_append_left _ (List.mem_reverse.mp hother))
  · rw [hpath, List.isChain_reverse]
    exact hchain

theorem Visited.rfl_of_mem (h : Ordered index order) (hmem : package ∈ order) :
    Visited index stack order [package] order where
  ordered := h
  grows := List.Subset.refl order
  reaches := by simpa using hmem
  sound := fun _ hother ↦ Or.inl hother
  avoids := fun _ _ hother ↦ hother

theorem Visited.nil (h : Ordered index order) : Visited index stack order [] order where
  ordered := h
  grows := List.Subset.refl order
  reaches := List.nil_subset order
  sound := fun _ hother ↦ Or.inl hother
  avoids := fun _ _ hother ↦ hother

theorem Visited.cons {goals middle result : List Package}
    (hfirst : Visited index stack order [package] middle)
    (hrest : Visited index stack middle goals result) :
    Visited index stack order (package :: goals) result where
  ordered := hrest.ordered
  grows := List.Subset.trans hfirst.grows hrest.grows
  reaches := by
    refine List.cons_subset.mpr ⟨?_, hrest.reaches⟩
    exact hrest.grows (hfirst.reaches List.mem_cons_self)
  sound := by
    intro other hother
    rcases hrest.sound other hother with hother | ⟨goal, hgoal, hgen⟩
    · rcases hfirst.sound other hother with hother | ⟨goal, hgoal, hgen⟩
      · exact Or.inl hother
      · exact Or.inr ⟨goal, List.mem_cons.mpr (Or.inl (List.mem_singleton.mp hgoal)), hgen⟩
    · exact Or.inr ⟨goal, List.mem_cons_of_mem _ hgoal, hgen⟩
  avoids := fun other hstack hother ↦
    hfirst.avoids other hstack (hrest.avoids other hstack hother)

theorem Underway.after {middle goals : List Package} (h : Underway index roots fuel stack order)
    (hvisited : Visited index stack order goals middle) :
    Underway index roots fuel stack middle where
  ordered := hvisited.ordered
  deep := h.deep
  nodup := h.nodup
  reachable := h.reachable
  chain := h.chain
  apart := fun other hother hmem ↦ h.apart other hother (hvisited.avoids other hother hmem)

/-- The state in which the imports of a package are visited. -/
theorem Underway.push (h : Underway index roots (fuel + 1) stack order)
    (hdue : Due index roots stack package) (horder : package ∉ order) (hstack : package ∉ stack) :
    Underway index roots fuel (package :: stack) order where
  ordered := h.ordered
  deep := by
    have hdeep := h.deep
    rw [List.length_cons]
    omega
  nodup := List.nodup_cons.mpr ⟨hstack, h.nodup⟩
  reachable := List.forall_mem_cons.mpr ⟨hdue.reachable, h.reachable⟩
  chain := hdue.chain
  apart := List.forall_mem_cons.mpr ⟨horder, h.apart⟩

theorem Due.of_dependencies {imported : List Package} (hdue : Due index roots stack package)
    (h : dependencies index package = .ok imported) :
    ∀ goal ∈ imported, Due index roots (package :: stack) goal := by
  intro goal hgoal
  obtain ⟨self, hself, hfound⟩ := exists_left_of_forall₂ (forall₂_of_dependencies h) hgoal
  have himports : Imports index package goal := ⟨self, hself, hfound⟩
  exact ⟨hdue.reachable.step himports, List.isChain_cons_cons.mpr ⟨himports, hdue.chain⟩⟩

/-- A package joins the order behind what it imports. -/
theorem Visited.close {imported result : List Package} (hdue : Due index roots stack package)
    (horder : package ∉ order) (hstack : package ∉ stack)
    (hdependencies : dependencies index package = .ok imported)
    (h : Visited index (package :: stack) order imported result) :
    Visited index stack order [package] (result ++ [package]) where
  ordered := by
    refine h.ordered.snoc hdue.reachable.indexed ?_ ?_
    · exact fun hmem ↦ horder (h.avoids package List.mem_cons_self hmem)
    · intro self hself
      obtain ⟨other, hother, hfound⟩ :=
        exists_right_of_forall₂ (forall₂_of_dependencies hdependencies) hself
      exact ⟨other, h.reaches hother, hfound⟩
  grows := List.subset_append_of_subset_left _ h.grows
  reaches := by simp
  sound := by
    intro other hother
    rcases List.mem_append.mp hother with hother | hother
    · rcases h.sound other hother with hother | ⟨goal, hgoal, hgen⟩
      · exact Or.inl hother
      · obtain ⟨self, hself, hfound⟩ :=
          exists_left_of_forall₂ (forall₂_of_dependencies hdependencies) hgoal
        exact Or.inr ⟨package, List.mem_singleton_self package, .head ⟨self, hself, hfound⟩ hgen⟩
    · rw [List.mem_singleton.mp hother]
      exact Or.inr ⟨package, List.mem_singleton_self package, .refl⟩
  avoids := by
    intro other hmem hother
    rcases List.mem_append.mp hother with hother | hother
    · exact h.avoids other (List.mem_cons_of_mem _ hmem) hother
    · exact absurd (List.mem_singleton.mp hother ▸ hmem) hstack

/-- What a visit returns. -/
def Visits (index : List Package) (roots : List Import) (stack order goals : List Package) :
    Except Error (List Package) → Prop
  | .ok result => Visited index stack order goals result
  | .error error => Truthful index roots error

theorem visitAll_spec
    (hvisit : ∀ order package, Underway index roots fuel stack order →
      Due index roots stack package →
      Visits index roots stack order [package] (visit index fuel stack order package))
    (goals order : List Package) (h : Underway index roots fuel stack order)
    (hdue : ∀ goal ∈ goals, Due index roots stack goal) :
    Visits index roots stack order goals (visitAll index fuel stack order goals) := by
  induction goals generalizing order with
  | nil =>
    rw [visitAll]
    exact .nil h.ordered
  | cons goal rest ih =>
    obtain ⟨hgoal, hrest⟩ := List.forall_mem_cons.mp hdue
    have hfirst := hvisit order goal h hgoal
    rw [visitAll]
    cases hmiddle : visit index fuel stack order goal with
    | error error =>
      rw [hmiddle] at hfirst
      exact hfirst
    | ok middle =>
      rw [hmiddle] at hfirst
      have hothers := ih middle (h.after hfirst) hrest
      change Visits index roots stack order (goal :: rest) (visitAll index fuel stack middle rest)
      cases hresult : visitAll index fuel stack middle rest with
      | error error =>
        rw [hresult] at hothers
        exact hothers
      | ok result =>
        rw [hresult] at hothers
        exact hfirst.cons hothers

theorem visit_spec (fuel : Nat) (stack order : List Package) (package : Package)
    (h : Underway index roots fuel stack order) (hdue : Due index roots stack package) :
    Visits index roots stack order [package] (visit index fuel stack order package) := by
  induction fuel generalizing stack order package with
  | zero => exact absurd h.positive (Nat.lt_irrefl 0)
  | succ fuel ih =>
    have hindexed : ∀ other ∈ stack, Indexed index other := fun other hother ↦
      (h.reachable other hother).indexed
    rw [visit]
    split_ifs with horder hstack
    · rw [byKey?_isSome_iff hdue.reachable.indexed h.ordered.indexed] at horder
      exact .rfl_of_mem h.ordered horder
    · rw [byKey?_isSome_iff hdue.reachable.indexed hindexed] at hstack
      exact truthful_cycleError h hdue hstack
    · rw [byKey?_isSome_iff hdue.reachable.indexed h.ordered.indexed] at horder
      rw [byKey?_isSome_iff hdue.reachable.indexed hindexed] at hstack
      cases hdependencies : dependencies index package with
      | error error => exact truthful_of_dependencies hdue.reachable hdependencies
      | ok imported =>
        have hall :=
          visitAll_spec (fun order goal ↦ ih (package :: stack) order goal) imported order
            (h.push hdue horder hstack) (hdue.of_dependencies hdependencies)
        change Visits index roots stack order [package]
          (visitAll index fuel (package :: stack) order imported >>=
            fun order ↦ pure (order ++ [package]))
        cases hresult : visitAll index fuel (package :: stack) order imported with
        | error error =>
          rw [hresult] at hall
          exact hall
        | ok result =>
          rw [hresult] at hall
          exact hall.close hdue horder hstack hdependencies

/-! ### Sorting -/

/-- What holds between two root imports: the order holds the packages of the imports before, and
packages that can be reached. -/
structure Sorting (index : List Package) (roots before : List Import) (order : List Package) :
    Prop where
  ordered : Ordered index order
  reachable : ∀ package ∈ order, Reachable index roots package
  reaches : ∀ self ∈ before, ∃ package ∈ order, byKey? self.package.key index = some package

theorem Sorting.visit {before : List Import} {self : Import} (h : Sorting index roots before order)
    (hself : self ∈ roots) (hfound : byKey? self.package.key index = some package) :
    Visits index roots [] order [package] (visit index (index.length + 1) [] order package) := by
  refine visit_spec (index.length + 1) [] order package ?_ ⟨.root hself hfound, .singleton package⟩
  exact ⟨h.ordered, by simp, List.nodup_nil, by simp, .nil, by simp⟩

theorem Sorting.step {before : List Import} {self : Import} {result : List Package}
    (h : Sorting index roots before order) (hself : self ∈ roots)
    (hfound : byKey? self.package.key index = some package)
    (hvisited : Visited index [] order [package] result) :
    Sorting index roots (before ++ [self]) result where
  ordered := hvisited.ordered
  reachable := by
    intro other hother
    rcases hvisited.sound other hother with hother | ⟨goal, hgoal, hgen⟩
    · exact h.reachable other hother
    · rw [List.mem_singleton.mp hgoal] at hgen
      exact (Reachable.root hself hfound).trans hgen
  reaches := by
    intro other hother
    rcases List.mem_append.mp hother with hother | hother
    · obtain ⟨package, hmem, hpackage⟩ := h.reaches other hother
      exact ⟨package, hvisited.grows hmem, hpackage⟩
    · rw [List.mem_singleton.mp hother]
      exact ⟨package, hvisited.reaches List.mem_cons_self, hfound⟩

/-- Sorting returns an order of what the roots reach, or an error that tells why there is none. -/
theorem sort_spec (index : List Package) (roots : List Import) :
    match sort index roots with
    | .ok order => Sorting index roots roots order
    | .error error => Truthful index roots error := by
  have hstart : Sorting index roots [] [] := ⟨.nil, by simp, by simp⟩
  have hfold := foldlM_invariant (f := fun order (self : Import) ↦ do
    let package ← lookup index self.package.key
    visit index (index.length + 1) [] order package) (Sorting index roots) hstart roots (by
      intro before self hself order result hsorting hresult
      obtain ⟨package, hfound, hresult⟩ := bind_eq_ok_iff.mp hresult
      rw [lookup_eq_ok_iff] at hfound
      have hvisit := hsorting.visit hself hfound
      rw [hresult] at hvisit
      exact hsorting.step hself hfound hvisit)
  cases hsort : sort index roots with
  | ok order =>
    rw [sort] at hsort
    rw [hsort] at hfold
    exact hfold
  | error error =>
    rw [sort] at hsort
    rw [hsort] at hfold
    obtain ⟨before, self, after, order, hroots, hsorting, hfailed⟩ := hfold
    have hself : self ∈ roots := by simp [hroots]
    rcases bind_eq_error_iff.mp hfailed with hfailed | ⟨package, hfound, hfailed⟩
    · exact truthful_of_lookup (Or.inl ⟨self, hself, rfl⟩) hfailed
    · rw [lookup_eq_ok_iff] at hfound
      have hvisit := hsorting.visit hself hfound
      rw [hfailed] at hvisit
      exact hvisit

theorem sorting_of_sort (h : sort index roots = .ok order) : Sorting index roots roots order := by
  have hspec := sort_spec index roots
  rwa [h] at hspec

theorem truthful_of_sort (h : sort index roots = .error error) : Truthful index roots error := by
  have hspec := sort_spec index roots
  rwa [h] at hspec

theorem Sorting.mem_iff (h : Sorting index roots roots order) :
    package ∈ order ↔ Reachable index roots package := by
  constructor
  · exact h.reachable package
  · intro hreachable
    induction hreachable with
    | root hself hfound =>
      obtain ⟨other, hother, hfound'⟩ := h.reaches _ hself
      rw [hfound] at hfound'
      rwa [Option.some.inj hfound']
    | step _ himports ih => exact h.ordered.mem_of_imports ih himports

/-- An order shows that every key is present and that there is no cycle. -/
theorem Sorting.resolvable (h : Sorting index roots roots order) : Resolvable index roots where
  present := by
    rintro key (⟨self, hself, rfl⟩ | ⟨package, hreachable, self, hself, rfl⟩)
    · obtain ⟨package, -, hfound⟩ := h.reaches self hself
      rw [hfound]
      rfl
    · obtain ⟨before, after, heq⟩ := List.append_of_mem (h.mem_iff.mpr hreachable)
      obtain ⟨imported, -, hfound⟩ := h.ordered.exists_before heq self hself
      rw [hfound]
      rfl
  acyclic := fun _ hreachable ↦ h.ordered.not_transGen (h.mem_iff.mpr hreachable)

theorem ordered_of_sort (h : sort (indexPackages packages) roots = .ok order) :
    Ordered packages order :=
  (sorting_of_sort h).ordered.of_indexPackages

theorem mem_iff_reachable_of_sort (h : sort (indexPackages packages) roots = .ok order) :
    package ∈ order ↔ Reachable packages roots package := by
  rw [(sorting_of_sort h).mem_iff, reachable_indexPackages]

/-- Sorting succeeds exactly if every key that imports name has a package and no reachable package
imports itself, directly or through others. The order then holds each reachable package once, behind
those that it imports; an error tells of a key that is missing, or of a circle of imports. -/
theorem sort_sound_and_complete (packages : List Package) (roots : List Import) :
    ((∃ order, sort (indexPackages packages) roots = .ok order) ↔ Resolvable packages roots) ∧
      (∀ order, sort (indexPackages packages) roots = .ok order →
        (order.map fun package ↦ package.header.key).Nodup ∧
        (∀ package, package ∈ order ↔ Reachable packages roots package) ∧
        ∀ before package after, order = before ++ package :: after →
          ∀ imported, Imports packages package imported → imported ∈ before) ∧
      ∀ error, sort (indexPackages packages) roots = .error error →
        Truthful packages roots error := by
  cases hsort : sort (indexPackages packages) roots with
  | error error =>
    have htruthful := truthful_indexPackages.mp (truthful_of_sort hsort)
    refine ⟨⟨?_, fun hresolvable ↦ absurd hresolvable htruthful.not_resolvable⟩, ?_, ?_⟩
    · rintro ⟨order, horder⟩
      cases horder
    · intro order horder
      cases horder
    · intro other hother
      cases hother
      exact htruthful
  | ok order =>
    have hresolvable :=
      (resolvable_indexPackages packages roots).mp (sorting_of_sort hsort).resolvable
    refine ⟨⟨fun _ ↦ hresolvable, fun _ ↦ ⟨order, rfl⟩⟩, ?_, ?_⟩
    · intro other hother
      cases hother
      have hordered := ordered_of_sort hsort
      exact ⟨hordered.nodup_keys, fun package ↦ mem_iff_reachable_of_sort hsort,
        fun before package after heq imported ↦ hordered.mem_before heq⟩
    · intro error herror
      cases herror

end FlowSpec.Package
