import FlowSpec.Package.Merge
import FlowSpec.Text.Distance

/-!
Resolution of the import graph. Packages are put in an order in which each stands behind the
packages that it imports; every package is then merged once, from imports that are resolved already.
-/

set_option autoImplicit false

namespace FlowSpec.Package

/-- The first package of every key. -/
def indexPackages (packages : List Package) : List Package :=
  packages.foldl (fun index package =>
    if index.any fun other => other.header.key == package.header.key then index
    else index ++ [package]) []

def byKey? (key : String) (packages : List Package) : Option Package :=
  packages.find? fun package => package.header.key == key

/-- The package that an import names. -/
def lookup (index : List Package) (key : String) : Except Error Package :=
  match byKey? key index with
  | some package => .ok package
  | none =>
    let keys := Text.sortNames (index.map fun package => package.header.key)
    .error (.missing key ((Text.suggest key keys).getD ""))

/-- The packages that a package imports. -/
def dependencies (index : List Package) (package : Package) : Except Error (List Package) :=
  package.imports.mapM fun self => lookup index self.package.key

/-- The cycle that reaching a package of the stack closes. -/
def cycleError (stack : List Package) (package : Package) : Error :=
  let inside := stack.takeWhile fun other => other.header.key ≠ package.header.key
  let path := (package :: inside.reverse) ++ [package]
  .cycle package.header.key (path.map fun other => other.header.text)

mutual

/-- Appends a package to the order, behind everything that it imports. `stack` holds the packages
whose imports are being visited, innermost first; there are no more than packages, which bounds
`fuel`. -/
def visit (index : List Package) : Nat → List Package → List Package → Package →
    Except Error (List Package)
  | 0, _, order, _ => .ok order
  | fuel + 1, stack, order, package =>
    if (byKey? package.header.key order).isSome then .ok order
    else if (byKey? package.header.key stack).isSome then .error (cycleError stack package)
    else do
      let imported ← dependencies index package
      let order ← visitAll index fuel (package :: stack) order imported
      return order ++ [package]

def visitAll (index : List Package) (fuel : Nat) (stack : List Package) :
    List Package → List Package → Except Error (List Package)
  | order, [] => .ok order
  | order, package :: rest => do
    let order ← visit index fuel stack order package
    visitAll index fuel stack order rest

end

/-- The packages reachable from imports, each behind those that it imports. -/
def sort (index : List Package) (imports : List Import) : Except Error (List Package) :=
  imports.foldlM (fun order self => do
    let package ← lookup index self.package.key
    visit index (index.length + 1) [] order package) []

/-- The resolved packages that a package imports. -/
def children (resolved : List Package) (package : Package) : List Package :=
  package.imports.filterMap fun self => byKey? self.package.key resolved

/-- Merges packages in order. -/
def resolveInOrder (order : List Package) : Except Error (List Package) :=
  order.foldlM (fun resolved package => do
    let merged ← (merge package (children resolved package)).mapError (Error.merging package.header)
    return resolved ++ [merged]) []

/-- A resolved import graph; the packages are in the order of resolution. -/
structure Resolution where
  imports : List Import
  resolved : List Package
deriving Repr, DecidableEq, Inhabited

/-- Resolves everything that can be reached from imports. -/
def resolve (imports : List Import) (packages : List Package) : Except Error Resolution := do
  let order ← sort (indexPackages packages) imports
  return { imports, resolved := ← resolveInOrder order }

namespace Resolution

/-- The headers in the order of resolution. -/
def order (resolution : Resolution) : List Header := resolution.resolved.map Package.header

/-- The resolved packages in the order of their keys. -/
def packages (resolution : Resolution) : List Package :=
  Text.sortByName (fun package => package.header.key) resolution.resolved

end Resolution

end FlowSpec.Package
