import FlowSpec.Package.Resolution
import Mathlib.Data.List.Chain
import Mathlib.Logic.Relation

/-!
The graph of imports in a list of packages. An import leads to the first package of its key, so a
package that is led to is determined by its key. A list of packages is in order if it can be built
up from the empty list by adding packages whose imports all lead to packages that are there. Such a
list is closed under imports and holds no cycle.
-/

set_option autoImplicit false

namespace FlowSpec.Package

open Relation

variable {packages : List Package} {roots : List Import} {package imported : Package} {key : String}

/-! ### Packages by key -/

/-- Imports of its key lead to this package. -/
def Indexed (packages : List Package) (package : Package) : Prop :=
  byKey? package.header.key packages = some package

theorem key_of_byKey? (h : byKey? key packages = some package) : package.header.key = key := by
  simpa using List.find?_some h

theorem mem_of_byKey? (h : byKey? key packages = some package) : package ∈ packages :=
  List.mem_of_find?_eq_some h

theorem indexed_of_byKey? (h : byKey? key packages = some package) : Indexed packages package := by
  rw [Indexed, key_of_byKey? h, h]

theorem Indexed.mem (h : Indexed packages package) : package ∈ packages := mem_of_byKey? h

theorem Indexed.eq_of_key {other : Package} (h : Indexed packages package)
    (hother : Indexed packages other) (hkey : package.header.key = other.header.key) :
    package = other := by
  rw [Indexed, hkey, hother] at h
  exact (Option.some.inj h).symm

/-- Among packages that imports lead to, looking for a key finds the package itself. -/
theorem byKey?_isSome_iff {found : List Package} (h : Indexed packages package)
    (hfound : ∀ other ∈ found, Indexed packages other) :
    (byKey? package.header.key found).isSome ↔ package ∈ found := by
  constructor
  · intro hsome
    obtain ⟨other, hother⟩ := Option.isSome_iff_exists.mp hsome
    have hmem : other ∈ found := mem_of_byKey? hother
    rwa [h.eq_of_key (hfound other hmem) (key_of_byKey? hother).symm]
  · intro hmem
    exact List.find?_isSome.mpr ⟨package, hmem, by simp⟩

/-- The index keeps the first package of every key. -/
theorem byKey?_indexPackages (key : String) (packages : List Package) :
    byKey? key (indexPackages packages) = byKey? key packages := by
  induction packages using List.reverseRecOn with
  | nil => rfl
  | append_singleton before package ih =>
    have hindex : indexPackages (before ++ [package]) =
        if (indexPackages before).any fun other ↦ other.header.key == package.header.key then
          indexPackages before
        else indexPackages before ++ [package] := by
      rw [indexPackages, List.foldl_append]
      rfl
    rw [hindex]
    unfold byKey? at ih ⊢
    split_ifs with hknown
    · rw [List.find?_append, ← ih]
      obtain ⟨other, hother, hkey⟩ := List.any_eq_true.mp hknown
      by_cases heq : package.header.key = key
      · obtain ⟨first, hfirst⟩ := Option.isSome_iff_exists.mp
          (List.find?_isSome (p := fun other ↦ other.header.key == key) |>.mpr
            ⟨other, hother, by simpa [heq] using hkey⟩)
        simp [hfirst]
      · simp [heq]
    · rw [List.find?_append, List.find?_append, ih]

/-! ### Imports and what they reach -/

/-- One of the imports of the first package leads to the second. -/
def Imports (packages : List Package) (importer imported : Package) : Prop :=
  ∃ self ∈ importer.imports, byKey? self.package.key packages = some imported

/-- The packages that imports lead to, directly or through other packages. -/
inductive Reachable (packages : List Package) (roots : List Import) : Package → Prop
  | root {self : Import} {package : Package} (hself : self ∈ roots)
      (hfound : byKey? self.package.key packages = some package) : Reachable packages roots package
  | step {importer imported : Package} (himporter : Reachable packages roots importer)
      (himports : Imports packages importer imported) : Reachable packages roots imported

/-- A root import or a reachable package names the key. -/
def NamesKey (packages : List Package) (roots : List Import) (key : String) : Prop :=
  (∃ self ∈ roots, self.package.key = key) ∨
    ∃ package, Reachable packages roots package ∧ ∃ self ∈ package.imports, self.package.key = key

/-- Every key that is named has a package, and no package is among those that its imports reach. -/
structure Resolvable (packages : List Package) (roots : List Import) : Prop where
  present : ∀ key, NamesKey packages roots key → (byKey? key packages).isSome
  acyclic : ∀ package, Reachable packages roots package →
    ¬ TransGen (Imports packages) package package

theorem Imports.indexed {importer : Package} (h : Imports packages importer imported) :
    Indexed packages imported := by
  obtain ⟨self, -, hfound⟩ := h
  exact indexed_of_byKey? hfound

theorem Reachable.indexed (h : Reachable packages roots package) : Indexed packages package := by
  cases h with
  | root _ hfound => exact indexed_of_byKey? hfound
  | step _ himports => exact himports.indexed

theorem Reachable.trans (h : Reachable packages roots package)
    (himports : ReflTransGen (Imports packages) package imported) :
    Reachable packages roots imported := by
  induction himports with
  | refl => exact h
  | tail _ hlast ih => exact ih.step hlast

/-! ### The graph of the index -/

theorem imports_indexPackages (packages : List Package) :
    Imports (indexPackages packages) = Imports packages := by
  funext importer imported
  simp only [Imports, byKey?_indexPackages]

theorem reachable_indexPackages (packages : List Package) (roots : List Import) :
    Reachable (indexPackages packages) roots = Reachable packages roots := by
  funext package
  apply propext
  constructor
  · intro h
    induction h with
    | root hself hfound => exact .root hself (byKey?_indexPackages _ _ ▸ hfound)
    | step _ himports ih => exact ih.step (imports_indexPackages packages ▸ himports)
  · intro h
    induction h with
    | root hself hfound => exact .root hself ((byKey?_indexPackages _ _).trans hfound)
    | step _ himports ih => exact ih.step (imports_indexPackages packages ▸ himports)

theorem namesKey_indexPackages (packages : List Package) (roots : List Import) :
    NamesKey (indexPackages packages) roots = NamesKey packages roots := by
  funext key
  simp only [NamesKey, reachable_indexPackages]

theorem resolvable_indexPackages (packages : List Package) (roots : List Import) :
    Resolvable (indexPackages packages) roots ↔ Resolvable packages roots := by
  constructor
  · rintro ⟨hpresent, hacyclic⟩
    simp only [namesKey_indexPackages, byKey?_indexPackages] at hpresent
    rw [reachable_indexPackages, imports_indexPackages] at hacyclic
    exact ⟨hpresent, hacyclic⟩
  · rintro ⟨hpresent, hacyclic⟩
    simp only [← namesKey_indexPackages packages] at hpresent
    rw [← reachable_indexPackages, ← imports_indexPackages] at hacyclic
    exact ⟨fun key hkey ↦ byKey?_indexPackages key packages ▸ hpresent key hkey, hacyclic⟩

/-! ### Lists in order -/

/-- Each package stands behind the packages that its imports lead to, and none occurs twice. -/
inductive Ordered (packages : List Package) : List Package → Prop
  | nil : Ordered packages []
  | snoc {order : List Package} {package : Package} (horder : Ordered packages order)
      (hindexed : Indexed packages package) (hnew : package ∉ order)
      (himports : ∀ self ∈ package.imports, ∃ imported ∈ order,
        byKey? self.package.key packages = some imported) :
      Ordered packages (order ++ [package])

namespace Ordered

variable {order : List Package}

theorem indexed (h : Ordered packages order) : ∀ package ∈ order, Indexed packages package := by
  induction h with
  | nil => simp
  | snoc _ hindexed _ _ ih =>
    intro package hmem
    rcases List.mem_append.mp hmem with hmem | hmem
    · exact ih package hmem
    · rwa [List.mem_singleton.mp hmem]

/-- No two packages of the list have the same key. -/
theorem nodup_keys (h : Ordered packages order) :
    (order.map fun package ↦ package.header.key).Nodup := by
  induction h with
  | nil => simp
  | snoc horder hindexed hnew _ ih =>
    rw [List.map_append, List.nodup_append]
    refine ⟨ih, by simp, ?_⟩
    intro key hkey other hother heq
    obtain ⟨package, hmem, rfl⟩ := List.mem_map.mp hkey
    rw [List.map_singleton, List.mem_singleton] at hother
    have hsame := (horder.indexed package hmem).eq_of_key hindexed (heq.trans hother)
    exact hnew (hsame ▸ hmem)

/-- Whatever stands before a package includes what it imports. -/
theorem exists_before (h : Ordered packages order) {before after : List Package}
    (heq : order = before ++ package :: after) :
    ∀ self ∈ package.imports, ∃ imported ∈ before,
      byKey? self.package.key packages = some imported := by
  induction h generalizing after with
  | nil => simp at heq
  | @snoc order last horder _ _ himports ih =>
    -- the package is either the last of the list or stands in the part before it
    rcases List.eq_nil_or_concat after with rfl | ⟨rest, other, rfl⟩
    · obtain ⟨rfl, hlast⟩ := List.append_inj' heq rfl
      rwa [← List.singleton_inj.mp hlast]
    · rw [List.concat_eq_append, ← List.cons_append, ← List.append_assoc] at heq
      exact ih (List.append_inj' heq rfl).1

theorem mem_before (h : Ordered packages order) {before after : List Package}
    (heq : order = before ++ package :: after) (himports : Imports packages package imported) :
    imported ∈ before := by
  obtain ⟨self, hself, hfound⟩ := himports
  obtain ⟨other, hmem, hother⟩ := h.exists_before heq self hself
  rw [hfound] at hother
  rwa [Option.some.inj hother]

theorem mem_of_imports (h : Ordered packages order) (hmem : package ∈ order)
    (himports : Imports packages package imported) : imported ∈ order := by
  obtain ⟨before, after, heq⟩ := List.append_of_mem hmem
  rw [heq]
  exact List.mem_append_left _ (h.mem_before heq himports)

theorem mem_of_reflTransGen (h : Ordered packages order) (hmem : package ∈ order)
    (himports : ReflTransGen (Imports packages) package imported) : imported ∈ order := by
  induction himports with
  | refl => exact hmem
  | tail _ hlast ih => exact h.mem_of_imports ih hlast

/-- A list in order holds no cycle: what is imported by the last package never leads back to it. -/
theorem not_transGen (h : Ordered packages order) (hmem : package ∈ order) :
    ¬ TransGen (Imports packages) package package := by
  induction h with
  | nil => simp at hmem
  | @snoc order last horder hindexed hnew himports ih =>
    intro hcycle
    rcases List.mem_append.mp hmem with hmem | hmem
    · exact ih hmem hcycle
    · rw [List.mem_singleton.mp hmem] at hcycle
      obtain ⟨next, hnext, hback⟩ := TransGen.head'_iff.mp hcycle
      obtain ⟨self, hself, hfound⟩ := hnext
      obtain ⟨other, hother, hfound'⟩ := himports self hself
      rw [hfound, Option.some.injEq] at hfound'
      exact hnew (horder.mem_of_reflTransGen (hfound' ▸ hother) hback)

theorem of_indexPackages (h : Ordered (indexPackages packages) order) : Ordered packages order := by
  induction h with
  | nil => exact .nil
  | snoc _ hindexed hnew himports ih =>
    rw [Indexed, byKey?_indexPackages] at hindexed
    simp only [byKey?_indexPackages] at himports
    exact ih.snoc hindexed hnew himports

end Ordered

end FlowSpec.Package
