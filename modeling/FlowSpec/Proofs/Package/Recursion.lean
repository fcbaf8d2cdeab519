import FlowSpec.Proofs.Package.Order
import Mathlib.Data.List.Nodup

/-!
Resolution in one pass over an order, against resolution by recursion. Recursion resolves the
imports of a package before the package itself, each anew wherever it is met. In an order the
imports of a package stand before it, so recursion ends, and what the pass has merged for them is
what recursion gives. The two therefore agree on every package of an order, whether they succeed or
fail.
-/

set_option autoImplicit false

namespace FlowSpec.Package

open Outcome

variable {packages order : List Package} {roots : List Import} {package : Package}

/-- A package merged from its imports, which are resolved first, each by itself. Imports that go
deeper than `depth` are not followed. -/
def resolveWithin (packages : List Package) : Nat → Package → Except Error Package
  | 0, package => .error (.cycle package.header.key [])
  | depth + 1, package => do
    let imported ← package.imports.mapM fun self ↦ do
      resolveWithin packages depth (← lookup packages self.package.key)
    (merge package imported).mapError (Error.merging package.header)

/-- Resolution by recursion. Imports without a cycle go no deeper than there are packages. -/
def resolveRecursively (packages : List Package) (package : Package) : Except Error Package :=
  resolveWithin packages packages.length package

/-! ### Recursion ends -/

/-- In an order, a depth of its length is as good as any greater one. -/
theorem resolveWithin_stable (h : Ordered packages order) (hmem : package ∈ order)
    {depth other : Nat} (hdepth : order.length ≤ depth) (hother : order.length ≤ other) :
    resolveWithin packages depth package = resolveWithin packages other package := by
  induction h generalizing package depth other with
  | nil => simp at hmem
  | @snoc order last horder hindexed hnew himports ih =>
    rw [List.length_append, List.length_singleton] at hdepth hother
    rcases List.mem_append.mp hmem with hmem | hmem
    · exact ih hmem (by omega) (by omega)
    · rw [List.mem_singleton.mp hmem]
      obtain ⟨depth, rfl⟩ := Nat.exists_eq_add_of_lt hdepth
      obtain ⟨other, rfl⟩ := Nat.exists_eq_add_of_lt hother
      rw [resolveWithin, resolveWithin]
      congr 1
      refine mapM_congr fun self hself ↦ ?_
      obtain ⟨imported, himported, hfound⟩ := himports self hself
      rw [lookup_eq_ok_iff.mpr hfound]
      exact ih himported (by omega) (by omega)

theorem Ordered.length_le (h : Ordered packages order) : order.length ≤ packages.length := by
  have hnodup : order.Nodup := h.nodup_keys.of_map _
  exact (hnodup.subperm fun package hmem ↦ (h.indexed package hmem).mem).length_le

/-- On an order, recursion is what it says: the merge of a package with its imports, resolved by
recursion. -/
theorem resolveRecursively_eq (h : Ordered packages order) (hmem : package ∈ order) :
    resolveRecursively packages package = (do
      let imported ← package.imports.mapM fun self ↦ do
        resolveRecursively packages (← lookup packages self.package.key)
      (merge package imported).mapError (Error.merging package.header)) := by
  have hlength := h.length_le
  rw [resolveRecursively, resolveWithin_stable h hmem hlength (Nat.le_succ_of_le hlength),
    resolveWithin]
  rfl

theorem exists_merge_of_resolveRecursively {merged : Package} (h : Ordered packages order)
    (hmem : package ∈ order) (hmerged : resolveRecursively packages package = .ok merged) :
    ∃ children,
      List.Forall₂ (fun (self : Import) child ↦ (do
        resolveRecursively packages (← lookup packages self.package.key)) =
          .ok child) package.imports children ∧
      merge package children = .ok merged := by
  rw [resolveRecursively_eq h hmem] at hmerged
  obtain ⟨children, hchildren, hmerge⟩ := bind_eq_ok_iff.mp hmerged
  exact ⟨children, mapM_eq_ok_iff.mp hchildren, mapError_eq_ok_iff.mp hmerge⟩

/-! ### The pass agrees with recursion -/

theorem header_of_resolvePackage (lookup : String → Option Shape) (package : Package) :
    (State.resolvePackage lookup package).1.header = package.header := by
  unfold State.resolvePackage
  split <;> rfl

theorem header_of_merge {children : List Package} {merged : Package}
    (h : merge package children = .ok merged) :
    merged.header = package.header := by
  unfold merge at h
  obtain ⟨⟨types, states⟩, -, h⟩ := bind_eq_ok_iff.mp h
  obtain ⟨scope, -, h⟩ := bind_eq_ok_iff.mp h
  have hheader := header_of_resolvePackage scope.shape? { package with types, states }
  split at h
  · rename_i resolved hresolved
    cases h
    rwa [hresolved] at hheader
  · cases h

theorem header_of_resolveRecursively {merged : Package} (h : Ordered packages order)
    (hmem : package ∈ order) (hmerged : resolveRecursively packages package = .ok merged) :
    merged.header = package.header := by
  obtain ⟨children, -, hmerge⟩ := exists_merge_of_resolveRecursively h hmem hmerged
  exact header_of_merge hmerge

/-- Where headers are kept, a key finds the image of the package that it belongs to. -/
theorem byKey?_of_forall₂ {relation : Package → Package → Prop} {resolved : List Package}
    (h : List.Forall₂ relation order resolved)
    (hnodup : (order.map fun other ↦ other.header.key).Nodup)
    (hheader : ∀ other ∈ order, ∀ result, relation other result → result.header = other.header)
    (hmem : package ∈ order) :
    ∃ result, byKey? package.header.key resolved = some result ∧ relation package result := by
  induction h with
  | nil => simp at hmem
  | @cons first result order resolved hfirst hrest ih =>
    rw [List.map_cons, List.nodup_cons] at hnodup
    obtain ⟨hfirstHeader, hrestHeader⟩ := List.forall_mem_cons.mp hheader
    have hresult := hfirstHeader result hfirst
    rw [byKey?, List.find?_cons, hresult]
    rcases List.mem_cons.mp hmem with rfl | hmem
    · exact ⟨result, by simp, hfirst⟩
    · have hne : first.header.key ≠ package.header.key := fun heq ↦
        hnodup.1 (heq ▸ List.mem_map_of_mem hmem)
      rw [beq_false_of_ne hne]
      exact ih hnodup.2 hrestHeader hmem

/-- What the pass takes as the imports of the next package is what recursion resolves them to. -/
theorem mapM_imports_eq_children {resolved : List Package} (h : Ordered packages order)
    (hresolved : order.mapM (resolveRecursively packages) = .ok resolved)
    (himports : ∀ self ∈ package.imports, ∃ imported ∈ order,
      byKey? self.package.key packages = some imported) :
    (package.imports.mapM fun self ↦ do
      resolveRecursively packages (← lookup packages self.package.key)) =
      .ok (children resolved package) := by
  refine mapM_eq_ok_filterMap fun self hself ↦ ?_
  obtain ⟨imported, himported, hfound⟩ := himports self hself
  obtain ⟨result, hkey, hresult⟩ := byKey?_of_forall₂ (mapM_eq_ok_iff.mp hresolved) h.nodup_keys
    (fun other hother merged ↦ header_of_resolveRecursively h hother) himported
  rw [key_of_byKey? hfound] at hkey
  rw [lookup_eq_ok_iff.mpr hfound]
  exact ⟨result, hkey, hresult⟩

theorem resolveInOrder_snoc (order : List Package) (package : Package) :
    resolveInOrder (order ++ [package]) = (do
      let resolved ← resolveInOrder order
      let merged ← (merge package (children resolved package)).mapError
        (Error.merging package.header)
      return resolved ++ [merged]) := by
  unfold resolveInOrder
  rw [List.foldlM_append]
  simp only [List.foldlM_cons, List.foldlM_nil, bind_pure]

/-- The pass over an order returns what recursion returns for its packages. -/
theorem resolveInOrder_eq_mapM (h : Ordered packages order) :
    resolveInOrder order = order.mapM (resolveRecursively packages) := by
  induction h with
  | nil => rfl
  | @snoc order last horder hindexed hnew himports ih =>
    rw [resolveInOrder_snoc, List.mapM_append, ih]
    cases hresolved : order.mapM (resolveRecursively packages) with
    | error error => rfl
    | ok resolved =>
      have hlast :=
        resolveRecursively_eq (horder.snoc hindexed hnew himports)
          (List.mem_append_right order (List.mem_singleton_self last))
      rw [mapM_imports_eq_children horder hresolved himports] at hlast
      change _ = (do
        let others ← [last].mapM (resolveRecursively packages)
        pure (resolved ++ others))
      rw [List.mapM_cons, hlast]
      change (merge last (children resolved last)).mapError _ >>= _ =
        ((merge last (children resolved last)).mapError _ >>= _) >>= _
      cases (merge last (children resolved last)).mapError (Error.merging last.header) <;> rfl

theorem merging_of_resolveInOrder {error : Error} (h : resolveInOrder order = .error error) :
    ∃ header cause, error = .merging header cause := by
  induction order using List.reverseRecOn with
  | nil => cases h
  | append_singleton before package ih =>
    rw [resolveInOrder_snoc] at h
    rcases bind_eq_error_iff.mp h with h | ⟨resolved, -, h⟩
    · exact ih h
    · rcases bind_eq_error_iff.mp h with h | ⟨merged, -, h⟩
      · obtain ⟨cause, -, hcause⟩ := mapError_eq_error_iff.mp h
        exact ⟨package.header, cause, hcause.symm⟩
      · cases h

theorem resolve_eq_mapM (h : sort (indexPackages packages) roots = .ok order) :
    resolve roots packages = (do
      return { imports := roots, resolved := ← order.mapM (resolveRecursively packages) }) := by
  rw [resolve, h, ← resolveInOrder_eq_mapM (ordered_of_sort h)]
  rfl

theorem merging_of_resolve {error : Error} (hsort : sort (indexPackages packages) roots = .ok order)
    (h : resolve roots packages = .error error) :
    ∃ header cause, error = .merging header cause := by
  rw [resolve_eq_mapM hsort, ← resolveInOrder_eq_mapM (ordered_of_sort hsort)] at h
  rcases bind_eq_error_iff.mp h with h | ⟨resolved, -, h⟩
  · exact merging_of_resolveInOrder h
  · cases h

theorem Resolution.mem_packages {resolution : Resolution} :
    package ∈ resolution.packages ↔ package ∈ resolution.resolved := by
  rw [Resolution.packages, Text.sortByName, List.mem_mergeSort]

theorem mem_packages_iff_of_resolve {resolution : Resolution} {resolved : Package}
    (hsort : sort (indexPackages packages) roots = .ok order)
    (h : resolve roots packages = .ok resolution) :
    resolved ∈ resolution.packages ↔ ∃ package, Reachable packages roots package ∧
      resolveRecursively packages package = .ok resolved := by
  rw [resolve_eq_mapM hsort] at h
  obtain ⟨results, hresults, h⟩ := bind_eq_ok_iff.mp h
  cases h
  have hpairs := mapM_eq_ok_iff.mp hresults
  rw [Resolution.mem_packages]
  constructor
  · intro hresolved
    obtain ⟨package, hpackage, heq⟩ := exists_left_of_forall₂ hpairs hresolved
    exact ⟨package, (mem_iff_reachable_of_sort hsort).mp hpackage, heq⟩
  · rintro ⟨package, hreachable, heq⟩
    obtain ⟨other, hother, heq'⟩ := exists_right_of_forall₂ hpairs
      ((mem_iff_reachable_of_sort hsort).mpr hreachable)
    rw [heq] at heq'
    cases heq'
    exact hother

theorem resolve_error_iff (hsort : sort (indexPackages packages) roots = .ok order) :
    (∃ error, resolve roots packages = .error error) ↔
      ∃ package, Reachable packages roots package ∧
        ∃ error, resolveRecursively packages package = .error error := by
  rw [resolve_eq_mapM hsort]
  constructor
  · rintro ⟨error, hfailed⟩
    rcases bind_eq_error_iff.mp hfailed with hfailed | ⟨resolved, -, hfailed⟩
    · obtain ⟨package, hpackage, hfailed⟩ := exists_of_mapM_eq_error hfailed
      exact ⟨package, (mem_iff_reachable_of_sort hsort).mp hpackage, error, hfailed⟩
    · cases hfailed
  · rintro ⟨package, hreachable, error, hfailed⟩
    cases hresults : order.mapM (resolveRecursively packages) with
    | error error => exact ⟨error, rfl⟩
    | ok results =>
      obtain ⟨result, -, hresult⟩ := exists_right_of_forall₂ (mapM_eq_ok_iff.mp hresults)
        ((mem_iff_reachable_of_sort hsort).mpr hreachable)
      rw [hfailed] at hresult
      cases hresult

/-- The packages of a resolution are those that recursion makes of the packages that can be reached.
Once the packages are in order, recursion is well defined on them, and resolution fails exactly if
recursion fails for one of them; the error is one of merging. -/
theorem resolve_refines_recursion (packages : List Package) (roots : List Import) :
    (∀ resolution, resolve roots packages = .ok resolution →
      (∃ order, sort (indexPackages packages) roots = .ok order) ∧
      ∀ resolved, resolved ∈ resolution.packages ↔
        ∃ package, Reachable packages roots package ∧
          resolveRecursively packages package = .ok resolved) ∧
      ∀ order, sort (indexPackages packages) roots = .ok order →
        (∀ package, Reachable packages roots package →
          resolveRecursively packages package = (do
            let imported ← package.imports.mapM fun self ↦ do
              resolveRecursively packages (← lookup packages self.package.key)
            (merge package imported).mapError (Error.merging package.header))) ∧
        ((∃ error, resolve roots packages = .error error) ↔
          ∃ package, Reachable packages roots package ∧
            ∃ error, resolveRecursively packages package = .error error) ∧
        ∀ error, resolve roots packages = .error error →
          ∃ header cause, error = .merging header cause := by
  constructor
  · intro resolution h
    obtain ⟨order, hsort, -⟩ := bind_eq_ok_iff.mp h
    exact ⟨⟨order, hsort⟩, fun resolved ↦ mem_packages_iff_of_resolve hsort h⟩
  · intro order hsort
    refine ⟨fun package hreachable ↦ ?_, resolve_error_iff hsort,
      fun error ↦ merging_of_resolve hsort⟩
    exact resolveRecursively_eq (ordered_of_sort hsort)
      ((mem_iff_reachable_of_sort hsort).mpr hreachable)

end FlowSpec.Package
