import FlowSpec.Proofs.Package.Merge
import FlowSpec.Proofs.Package.Order

/-!
What sorting sees of packages. Of a package it reads the header and the imports, and of a list of
packages what is found under the keys that imports name. So if every package is changed in its other
parts, and keys find the changed packages, the order is the changed order and an error is the same
error (`Portrays.sort`). Where all keys are different, what a key finds does not depend on the order
of the list, nor does the suggestion for a key that is missing, and resolution does not depend on
the order in which packages were loaded.
-/

set_option autoImplicit false

namespace FlowSpec.Package

open Outcome

variable {index image packages others : List Package} {roots : List Import} {package : Package}
  {change : Package → Package}

/-! ### Two lists of packages -/

/-- The change keeps headers and imports, and what imports lead to in the first list is changed to
what they lead to in the second. -/
structure Portrays (index image : List Package) (roots : List Import) (change : Package → Package) :
    Prop where
  header : ∀ package, (change package).header = package.header
  imports : ∀ package, (change package).imports = package.imports
  found : ∀ key, NamesKey index roots key → lookup image key = (lookup index key).map change

/-- What is reached has been named by its key. -/
theorem Reachable.namesKey (h : Reachable index roots package) :
    NamesKey index roots package.header.key := by
  cases h with
  | root hself hfound => exact Or.inl ⟨_, hself, (key_of_byKey? hfound).symm⟩
  | step himporter himports =>
    obtain ⟨self, hself, hfound⟩ := himports
    exact Or.inr ⟨_, himporter, self, hself, (key_of_byKey? hfound).symm⟩

namespace Portrays

variable {fuel depth : Nat} {stack order : List Package}

theorem byKey?_map (h : Portrays index image roots change) (key : String) (found : List Package) :
    byKey? key (found.map change) = (byKey? key found).map change := by
  have hsame : ((fun other : Package ↦ other.header.key == key) ∘ change) =
      fun other ↦ other.header.key == key := by
    funext other
    rw [Function.comp_apply, h.header]
  rw [byKey?, List.find?_map, hsame, byKey?]

theorem byKey?_of_reachable (h : Portrays index image roots change)
    (hreachable : Reachable index roots package) :
    byKey? package.header.key image = some (change package) := by
  have hfound := h.found package.header.key hreachable.namesKey
  rw [lookup_eq_ok_iff.mpr hreachable.indexed] at hfound
  exact lookup_eq_ok_iff.mp hfound

theorem cycleError_map (h : Portrays index image roots change) (stack : List Package)
    (package : Package) :
    cycleError (stack.map change) (change package) = cycleError stack package := by
  have hinside : (stack.map change).takeWhile (fun other ↦ other.header.key ≠
        (change package).header.key) =
      (stack.takeWhile fun other ↦ other.header.key ≠ package.header.key).map change := by
    rw [List.takeWhile_map]
    congr 2
    funext other
    simp only [Function.comp_apply, h.header]
  have htext : ((fun other : Package ↦ other.header.text) ∘ change) = fun other ↦
      other.header.text := by
    funext other
    rw [Function.comp_apply, h.header]
  unfold cycleError
  rw [hinside, h.header]
  simp only [← List.map_reverse, List.map_append, List.map_cons, List.map_nil, List.map_map,
    htext, h.header]

theorem dependencies_map (h : Portrays index image roots change)
    (hreachable : Reachable index roots package) :
    dependencies image (change package) = (dependencies index package).map (List.map change) := by
  rw [dependencies, dependencies, h.imports]
  refine mapM_eq_map fun self hself ↦ ?_
  exact h.found _ (Or.inr ⟨package, hreachable, self, hself, rfl⟩)

/-- The stack of the second visit is no longer than its list. -/
theorem depth_pos (h : Portrays index image roots change)
    (hunderway : Underway index roots fuel stack order)
    (hdepth : image.length < depth + stack.length) : 0 < depth := by
  have hsubset : stack.map change ⊆ image := by
    intro other hother
    obtain ⟨package, hpackage, rfl⟩ := List.mem_map.mp hother
    exact mem_of_byKey? (h.byKey?_of_reachable (hunderway.reachable package hpackage))
  have hnodup : (stack.map change).Nodup := by
    refine hunderway.nodup.map_on fun first hfirst second hsecond heq ↦ ?_
    have hkey : first.header.key = second.header.key := by rw [← h.header first, heq, h.header]
    exact (hunderway.reachable first hfirst).indexed.eq_of_key
      (hunderway.reachable second hsecond).indexed hkey
  have hlength := (hnodup.subperm hsubset).length_le
  rw [List.length_map] at hlength
  omega

theorem visitAll
    (hvisit : ∀ order package, Underway index roots fuel stack order →
      Due index roots stack package →
      visit image depth (stack.map change) (order.map change) (change package) =
        (visit index fuel stack order package).map (List.map change))
    (goals : List Package) (order : List Package)
    (hunderway : Underway index roots fuel stack order)
    (hdue : ∀ goal ∈ goals, Due index roots stack goal) :
    Package.visitAll image depth (stack.map change) (order.map change) (goals.map change) =
      (Package.visitAll index fuel stack order goals).map (List.map change) := by
  induction goals generalizing order with
  | nil => simp [Package.visitAll, Except.map]
  | cons goal rest ih =>
    obtain ⟨hgoal, hrest⟩ := List.forall_mem_cons.mp hdue
    have hspec := visit_spec fuel stack order goal hunderway hgoal
    rw [List.map_cons, Package.visitAll, Package.visitAll, hvisit order goal hunderway hgoal]
    cases hmiddle : visit index fuel stack order goal with
    | error error => rfl
    | ok middle =>
      rw [hmiddle] at hspec
      exact ih middle (hunderway.after hspec) hrest

/-- A visit among the changed packages changes what the visit makes of the order. -/
theorem visit (h : Portrays index image roots change) (fuel depth : Nat)
    (stack order : List Package) (package : Package)
    (hunderway : Underway index roots fuel stack order) (hdue : Due index roots stack package)
    (hdepth : image.length < depth + stack.length) :
    Package.visit image depth (stack.map change) (order.map change) (change package) =
      (Package.visit index fuel stack order package).map (List.map change) := by
  induction fuel generalizing depth stack order package with
  | zero => exact absurd hunderway.positive (Nat.lt_irrefl 0)
  | succ fuel ih =>
    obtain ⟨depth, rfl⟩ := Nat.exists_eq_add_one.mpr (h.depth_pos hunderway hdepth)
    have hindexed : ∀ other ∈ stack, Indexed index other := fun other hother ↦
      (hunderway.reachable other hother).indexed
    rw [Package.visit, Package.visit, h.header, h.byKey?_map, h.byKey?_map, Option.isSome_map,
      Option.isSome_map, h.cycleError_map]
    split_ifs with horder hstack
    · rfl
    · rfl
    · rw [byKey?_isSome_iff hdue.reachable.indexed hunderway.ordered.indexed] at horder
      rw [byKey?_isSome_iff hdue.reachable.indexed hindexed] at hstack
      rw [h.dependencies_map hdue.reachable]
      cases hdependencies : dependencies index package with
      | error error => rfl
      | ok imported =>
        have hdepth' : image.length < depth + (package :: stack).length := by
          rw [List.length_cons]
          omega
        have hall := visitAll (fun order goal hunderway hdue ↦
            ih depth (package :: stack) order goal hunderway hdue hdepth') imported order
          (hunderway.push hdue horder hstack) (hdue.of_dependencies hdependencies)
        change (Package.visitAll image depth ((package :: stack).map change) (order.map change)
            (imported.map change) >>= fun order ↦ pure (order ++ [change package])) =
          (Package.visitAll index fuel (package :: stack) order imported >>= fun order ↦
            pure (order ++ [package])).map (List.map change)
        rw [hall]
        cases Package.visitAll index fuel (package :: stack) order imported with
        | error error => rfl
        | ok result =>
          change Except.ok (result.map change ++ [change package]) =
            Except.ok ((result ++ [package]).map change)
          rw [List.map_append, List.map_singleton]

/-- Sorting the changed packages gives the changed order, or the same error. -/
theorem sort (h : Portrays index image roots change) :
    Package.sort image roots = (Package.sort index roots).map (List.map change) := by
  -- the root imports are taken one by one; those before have left an order that a visit can start
  -- from
  suffices hall : ∀ (before after : List Import) (order : List Package), roots = before ++ after →
      Sorting index roots before order →
      after.foldlM (fun order (self : Import) ↦ do
        let package ← lookup image self.package.key
        Package.visit image (image.length + 1) [] order package) (order.map change) =
      (after.foldlM (fun order (self : Import) ↦ do
        let package ← lookup index self.package.key
        Package.visit index (index.length + 1) [] order package) order).map (List.map change) from
    hall [] roots [] rfl ⟨.nil, by simp, by simp⟩
  intro before after
  induction after generalizing before with
  | nil => intros; rfl
  | cons self after ih =>
    intro order hroots hsorting
    have hself : self ∈ roots := by simp [hroots]
    rw [List.foldlM_cons, List.foldlM_cons, h.found _ (Or.inl ⟨self, hself, rfl⟩)]
    cases hlookup : lookup index self.package.key with
    | error error => rfl
    | ok package =>
      have hfound := lookup_eq_ok_iff.mp hlookup
      have hspec := hsorting.visit hself hfound
      have hvisit := h.visit (index.length + 1) (image.length + 1) [] order package
        ⟨hsorting.ordered, by simp, List.nodup_nil, by simp, .nil, by simp⟩
        ⟨.root hself hfound, .singleton package⟩ (by simp)
      change (Package.visit image (image.length + 1) [] (order.map change) (change package) >>= _) =
        (Package.visit index (index.length + 1) [] order package >>= _).map _
      rw [List.map_nil] at hvisit
      rw [hvisit]
      cases hresult : Package.visit index (index.length + 1) [] order package with
      | error error => rfl
      | ok result =>
        rw [hresult] at hspec
        exact ih (before ++ [self]) result (by simp [hroots]) (hsorting.step hself hfound hspec)

end Portrays

/-! ### Packages in another order -/

/-- Where all keys are different, every package is indexed. -/
theorem indexPackages_eq_self (hkeys : (packages.map fun package ↦ package.header.key).Nodup) :
    indexPackages packages = packages := by
  induction packages using List.reverseRecOn with
  | nil => rfl
  | append_singleton before package ih =>
    rw [List.map_append, List.nodup_append] at hkeys
    obtain ⟨hbefore, -, hnew⟩ := hkeys
    have hunknown : (before.any fun other ↦ other.header.key == package.header.key) = false := by
      rw [List.any_eq_false]
      intro other hother hsame
      exact hnew _ (List.mem_map_of_mem hother) _ (List.mem_singleton_self _) (by simpa using hsame)
    have hindex : before.foldl (fun index package ↦
        if index.any fun other ↦ other.header.key == package.header.key then index
        else index ++ [package]) [] = before := ih hbefore
    rw [indexPackages, List.foldl_append, hindex, List.foldl_cons, List.foldl_nil, hunknown]
    rfl

/-- What a key leads to, and the suggestion for a key that leads nowhere. -/
theorem lookup_perm (hperm : packages.Perm others)
    (hkeys : (packages.map fun package ↦ package.header.key).Nodup) (key : String) :
    lookup packages key = lookup others key := by
  have hnames : Text.sortNames (packages.map fun package ↦ package.header.key) =
      Text.sortNames (others.map _) :=
    Text.sortByName_congr (hperm.map _) fun _ _ _ _ hsame ↦ hsame
  have hfound : byKey? key packages = byKey? key others := Text.find?_key_perm hperm hkeys key
  simp only [lookup, hfound, hnames]

theorem sort_perm (hperm : packages.Perm others)
    (hkeys : (packages.map fun package ↦ package.header.key).Nodup) (roots : List Import) :
    sort packages roots = sort others roots := by
  have hportrays : Portrays others packages roots id := by
    refine ⟨fun _ ↦ rfl, fun _ ↦ rfl, fun key _ ↦ ?_⟩
    rw [lookup_perm hperm hkeys]
    cases lookup others key <;> rfl
  rw [hportrays.sort, List.map_id_fun]
  cases sort others roots <;> rfl

/-- Packages that are loaded in another order, each with a key of its own, are resolved alike: to
the same packages in the same order, or with the same error. -/
theorem resolve_perm (roots : List Import) {packages others : List Package}
    (hperm : packages.Perm others) (hkeys : (packages.map fun package ↦ package.header.key).Nodup) :
    resolve roots packages = resolve roots others := by
  have hothers := (hperm.map fun package : Package ↦ package.header.key).nodup_iff.mp hkeys
  rw [resolve, resolve, indexPackages_eq_self hkeys, indexPackages_eq_self hothers,
    sort_perm hperm hkeys]

/-- Takes orders and their totals from another package, and declares the identifier of an order
itself. -/
def billingPackage : Package :=
  { apiVersion := "0.6.0"
    header := { owner := "shop", name := "billing", version := "1.0.0" }
    imports := [ordersImport]
    types := localOrderTypes
    functions :=
      [{ operator := .map, step := { uses := "add-total", states := [{ name := "totals" }] } }] }

def billingImport : Import := { package := billingPackage.header, types := ["order"] }

theorem nodup_keys_billing :
    ([billingPackage, ordersPackage].map fun package ↦ package.header.key).Nodup := by decide

/-- The packages can be loaded in either order, though one imports the other. -/
theorem resolve_perm_billing :
    [billingPackage, ordersPackage].Perm [ordersPackage, billingPackage] ∧
      ([billingPackage, ordersPackage].map fun package ↦ package.header.key).Nodup ∧
      resolve [billingImport] [billingPackage, ordersPackage] =
        resolve [billingImport] [ordersPackage, billingPackage] :=
  ⟨.swap _ _ _, nodup_keys_billing, resolve_perm [billingImport] (.swap _ _ _) nodup_keys_billing⟩

end FlowSpec.Package
