import FlowSpec.Proofs.Package.Adoption
import FlowSpec.Proofs.Path

/-!
Functions that are found through imports. A function that a package imports may be imported from it
in turn, so a function leads from package to package until one declares it. The search is told
without a bound on its steps (`Finds`): among resolved packages every import leads to a package that
stands before its importer, so the search ends (`finds_importedFunction`) and misses no package.
What it returns is the declared function, with the package at the end of the chain of imports and
the path that the imports of the chain lead along.
-/

set_option autoImplicit false

namespace FlowSpec.Package

open Outcome

variable {packages order : List Package} {package merged : Package} {imports roots : List Import}
  {self : Import} {wanted : FunctionImport} {place uses : String} {resolution : Resolution}

/-! ### Imports of resolved packages -/

/-- Each of the imports names a package that is there. -/
def Provided (packages : List Package) (imports : List Import) : Prop :=
  ∀ self ∈ imports, ∃ package, find? self.package packages = some package

theorem exists_find?_of_mem (h : package ∈ packages) :
    ∃ other, find? package.header packages = some other := by
  rw [← Option.isSome_iff_exists, find?, List.find?_isSome]
  exact ⟨package, h, by simp⟩

/-- A merged package has found what each import names: recursion's result for the package that
the import leads to. -/
theorem exists_child {children : List Package} (hordered : Ordered packages order)
    (hmem : package ∈ order) (hchildren : List.Forall₂ (fun (self : Import) child ↦ (do
      resolveRecursively packages (← lookup packages self.package.key)) =
        .ok child) package.imports children)
    (hmerge : merge package children = .ok merged) (hself : self ∈ package.imports) :
    ∃ child imported, find? self.package children = some child ∧ child.header = self.package ∧
      byKey? self.package.key packages = some imported ∧ imported ∈ order ∧
      resolveRecursively packages imported = .ok child := by
  obtain ⟨states, scope, hoffer, -⟩ := exists_of_merge hmerge
  obtain ⟨child, -, hchild, -⟩ := available_of_mergeTypesAndStates hoffer self hself
  have hheader : child.header = self.package := by simpa using List.find?_some hchild
  -- the child may stem from another import of the same key
  obtain ⟨other, hother, hresult⟩ :=
    exists_left_of_forall₂ hchildren (List.mem_of_find?_eq_some hchild)
  obtain ⟨imported, hfound, hresult⟩ := bind_eq_ok_iff.mp hresult
  have himported : imported ∈ order :=
    hordered.mem_of_imports hmem ⟨other, hother, lookup_eq_ok_iff.mp hfound⟩
  refine ⟨child, imported, hchild, hheader, ?_, himported, hresult⟩
  rw [← hheader, header_of_resolveRecursively hordered himported hresult]
  exact hordered.indexed imported himported

theorem provided_of_mem_packages (h : resolve roots packages = .ok resolution)
    (hmem : merged ∈ resolution.packages) :
    Provided resolution.packages merged.imports := by
  obtain ⟨order, hsort, -⟩ := bind_eq_ok_iff.mp h
  have hordered := ordered_of_sort hsort
  obtain ⟨package, hreachable, hmerged⟩ := (mem_packages_iff_of_resolve hsort h).mp hmem
  have hpackage := (mem_iff_reachable_of_sort hsort).mpr hreachable
  obtain ⟨children, hchildren, hmerge⟩ :=
    exists_merge_of_resolveRecursively hordered hpackage hmerged
  rw [(merged_of_merge hmerge).imports]
  intro self hself
  obtain ⟨child, imported, -, hheader, -, himported, hresult⟩ :=
    exists_child hordered hpackage hchildren hmerge hself
  rw [← hheader]
  exact exists_find?_of_mem ((mem_packages_iff_of_resolve hsort h).mpr
    ⟨imported, (mem_iff_reachable_of_sort hsort).mp himported, hresult⟩)

theorem provided_roots (h : resolve roots packages = .ok resolution)
    (hheaders : ∀ self ∈ roots, ∀ package ∈ packages,
      self.package.key = package.header.key → self.package = package.header) :
    Provided resolution.packages roots := by
  intro self hself
  obtain ⟨-, hagain⟩ := sort_packages_of_resolve h
  obtain ⟨merged, hmem, hkey⟩ := (sorting_of_sort hagain).reaches self hself
  obtain ⟨order, hsort, -⟩ := bind_eq_ok_iff.mp h
  obtain ⟨package, hreachable, hrecursive⟩ :=
    (mem_packages_iff_of_resolve hsort h).mp (Resolution.mem_packages.mpr hmem)
  have hheader := header_of_resolveRecursively (ordered_of_sort hsort)
    ((mem_iff_reachable_of_sort hsort).mpr hreachable) hrecursive
  rw [hheaders self hself package hreachable.indexed.mem
      (by rw [← hheader, key_of_byKey? hkey]), ← hheader]
  exact exists_find?_of_mem (Resolution.mem_packages.mpr hmem)

/-! ### The search -/

/-- The function with where it comes from. -/
def attributed (found : Operation) (place : String) (self : Import) (wanted : FunctionImport) :
    Operation :=
  let imported :=
    { package := self.package, name := wanted.name, asName := wanted.asName, path := place }
  { found with step := { found.step with imported := some imported } }

/-- The search for a function, from a place. Each step goes to the package of an import, and on to
its imports unless it declares the function. -/
inductive Finds (packages : List Package) :
    String → String → List Import → Except Error Operation → Prop
  | unlisted {place uses : String} {imports : List Import} {error : Error}
      (hlisted : importForFunction uses imports = .error error) :
      Finds packages place uses imports (.error error)
  | missing {place uses : String} {imports : List Import} {self : Import} {wanted : FunctionImport}
      (hlisted : importForFunction uses imports = .ok (self, wanted))
      (hpackage : find? self.package packages = none) :
      Finds packages place uses imports (.error (.missing self.package.key ""))
  | declared {place uses : String} {imports : List Import} {self : Import} {wanted : FunctionImport}
      {package : Package} {found : Operation}
      (hlisted : importForFunction uses imports = .ok (self, wanted))
      (hpackage : find? self.package packages = some package)
      (hfound : package.function? wanted.name = some found) :
      Finds packages place uses imports
        (.ok (attributed found (Path.join [place, self.path]) self wanted))
  | passed {place uses : String} {imports : List Import} {self : Import} {wanted : FunctionImport}
      {package : Package} {outcome : Except Error Operation}
      (hlisted : importForFunction uses imports = .ok (self, wanted))
      (hpackage : find? self.package packages = some package)
      (hfound : package.function? wanted.name = none)
      (hrest : Finds packages (Path.join [place, self.path]) wanted.name package.imports outcome) :
      Finds packages place uses imports outcome

/-- An import, with a path, lists a function under the name that its importer uses. -/
structure Lists (imports : List Import) (uses : String) (provider : Import)
    (wanted : FunctionImport) : Prop where
  mem : provider ∈ imports
  path : provider.path ≠ ""
  listed : wanted ∈ provider.functions
  known : wanted.localName = uses

theorem lists_of_importForFunction (h : importForFunction uses imports = .ok (self, wanted)) :
    Lists imports uses self wanted := by
  induction imports with
  | nil => cases h
  | cons first rest ih =>
    rw [importForFunction] at h
    cases hfirst : first.function? uses with
    | none =>
      simp only [hfirst] at h
      have hself := ih h
      exact { hself with mem := List.mem_cons_of_mem first hself.mem }
    | some function =>
      simp only [hfirst] at h
      split_ifs at h with hpath
      cases h
      exact ⟨List.mem_cons_self, by simpa using hpath, List.mem_of_find?_eq_some hfirst,
        by simpa using List.find?_some hfirst⟩

theorem byKey?_of_find? (hkeys : (packages.map fun package ↦ package.header.key).Nodup)
    {header : Header} (h : find? header packages = some package) :
    byKey? header.key packages = some package := by
  obtain rfl : package.header = header := by simpa using List.find?_some h
  exact (Text.find?_key_eq_some_iff hkeys).mpr ⟨List.mem_of_find?_eq_some h, rfl⟩

/-- The search ends: imports that lead to packages before a place in an order are followed to
packages before that place, and so on, with fewer packages at each step. -/
theorem finds_findFunction (h : Ordered packages order)
    (hkeys : (packages.map fun package ↦ package.header.key).Nodup) {fuel : Nat}
    {before after : List Package} (heq : order = before ++ after) (hfuel : before.length < fuel)
    (himports : ∀ self ∈ imports, ∃ imported ∈ before,
      byKey? self.package.key packages = some imported) :
    Finds packages place uses imports (findFunction packages fuel place uses imports) := by
  induction fuel generalizing before after place uses imports with
  | zero => exact absurd hfuel (Nat.not_lt_zero _)
  | succ fuel ih =>
    rw [findFunction]
    cases hlisted : importForFunction uses imports with
    | error error => exact .unlisted hlisted
    | ok pair =>
      obtain ⟨self, wanted⟩ := pair
      rw [ok_bind]
      dsimp only
      cases hpackage : find? self.package packages with
      | none => exact .missing hlisted hpackage
      | some package =>
        dsimp only
        cases hfound : package.function? wanted.name with
        | some found => exact .declared hlisted hpackage hfound
        | none =>
          -- the package splits the part that stands before the place, and its imports lead to the
          -- packages before it
          obtain ⟨imported, hmem, hkey⟩ := himports self (lists_of_importForFunction hlisted).mem
          rw [byKey?_of_find? hkeys hpackage, Option.some.injEq] at hkey
          obtain ⟨first, rest, rfl⟩ := List.append_of_mem (hkey ▸ hmem)
          rw [List.append_assoc, List.cons_append] at heq
          rw [List.length_append, List.length_cons] at hfuel
          exact .passed hlisted hpackage hfound (ih heq (by omega) (h.exists_before heq))

/-- Among resolved packages, the search for an imported function ends. -/
theorem finds_importedFunction (h : resolve roots packages = .ok resolution) (uses : String) :
    Finds resolution.packages "." uses roots (importedFunction uses roots resolution.packages) := by
  obtain ⟨hkeys, hsort⟩ := sort_packages_of_resolve h
  have hordered := ordered_of_sort hsort
  refine finds_findFunction hordered hkeys (List.append_nil _).symm
    (Nat.lt_succ_of_le hordered.length_le) ?_
  intro self hself
  obtain ⟨merged, hmem, hfound⟩ := (sorting_of_sort hsort).reaches self hself
  exact ⟨merged, hmem, byKey?_indexPackages _ _ ▸ hfound⟩

/-! ### Failure and success -/

theorem importForFunction_error {error : Error}
    (h : importForFunction uses imports = .error error) :
    error = .pathRequired ∨ error = .unknownFunction uses := by
  induction imports with
  | nil =>
    cases h
    exact .inr rfl
  | cons first rest ih =>
    rw [importForFunction] at h
    cases hfirst : first.function? uses with
    | none =>
      simp only [hfirst] at h
      exact ih h
    | some function =>
      simp only [hfirst] at h
      split_ifs at h
      cases h
      exact .inl rfl

/-- Where every import names a package that is there, the search fails only for want of a path or of
a listing. -/
theorem Finds.error_cases {outcome : Except Error Operation} {error : Error}
    (h : Finds packages place uses imports outcome) (herror : outcome = .error error)
    (hpackages : ∀ package ∈ packages, Provided packages package.imports)
    (himports : Provided packages imports) :
    error = .pathRequired ∨ ∃ name, error = .unknownFunction name := by
  induction h with
  | unlisted hlisted =>
    cases herror
    exact (importForFunction_error hlisted).imp_right fun hunknown ↦ ⟨_, hunknown⟩
  | missing hlisted hpackage =>
    obtain ⟨package, hsome⟩ := himports _ (lists_of_importForFunction hlisted).mem
    rw [hpackage] at hsome
    cases hsome
  | declared => cases herror
  | passed _ hpackage _ _ ih => exact ih herror (hpackages _ (List.mem_of_find?_eq_some hpackage))

/-- Imports of a function that lead from one to the next: the first is known to its importer as
`uses`, and each further one is an import of the package before it, which does not declare the
function itself. -/
inductive Chain (packages : List Package) :
    String → List Import → List (Import × FunctionImport) → Package → Prop
  | last {uses : String} {imports : List Import} {self : Import} {wanted : FunctionImport}
      {package : Package} (hlists : Lists imports uses self wanted)
      (hpackage : find? self.package packages = some package) :
      Chain packages uses imports [(self, wanted)] package
  | cons {uses : String} {imports : List Import} {self : Import} {wanted : FunctionImport}
      {package source : Package} {links : List (Import × FunctionImport)}
      (hlists : Lists imports uses self wanted)
      (hpackage : find? self.package packages = some package)
      (hpassed : package.function? wanted.name = none)
      (hlinks : Chain packages wanted.name package.imports links source) :
      Chain packages uses imports ((self, wanted) :: links) source

/-- The paths of the imports of a chain. -/
def linkPaths (links : List (Import × FunctionImport)) : List String :=
  links.map fun link ↦ link.1.path

theorem Chain.path_ne_empty {links : List (Import × FunctionImport)}
    (h : Chain packages uses imports links package) :
    ∀ path ∈ linkPaths links, path ≠ "" := by
  induction h with
  | last hlists _ => exact List.forall_mem_singleton.mpr hlists.path
  | cons hlists _ _ _ ih => exact List.forall_mem_cons.mpr ⟨hlists.path, ih⟩

/-- A chain ends in the package that its last import names. -/
theorem Chain.find?_last {links : List (Import × FunctionImport)}
    (h : Chain packages uses imports (links ++ [(self, wanted)]) package) :
    find? self.package packages = some package := by
  induction links generalizing uses imports with
  | nil =>
    cases h with
    | last _ hpackage => exact hpackage
    | cons _ _ _ hlinks => cases hlinks
  | cons link links ih =>
    rw [List.cons_append] at h
    generalize hrest : links ++ [(self, wanted)] = rest at h
    cases h with
    | last => exact absurd hrest (List.append_ne_nil_of_right_ne_nil _ (List.cons_ne_nil _ _))
    | cons _ _ _ hlinks => exact ih (hrest ▸ hlinks)

/-- What the search returns is a function of the package at the end of a chain, with the path of the
chain behind the place where it starts. -/
theorem Finds.exists_chain {outcome : Except Error Operation} {function : Operation}
    {before : List String} (h : Finds packages place uses imports outcome)
    (hplace : place = Path.join ("." :: before)) (hok : outcome = .ok function) :
    ∃ links self wanted package found,
      Chain packages uses imports (links ++ [(self, wanted)]) package ∧
      package.function? wanted.name = some found ∧
        function =
          attributed found (Path.join ("." :: (before ++ linkPaths (links ++ [(self, wanted)]))))
            self wanted := by
  induction h generalizing before with
  | unlisted => cases hok
  | missing => cases hok
  | @declared place uses imports self wanted package found hlisted hpackage hfound =>
    cases hok
    refine ⟨[], self, wanted, package, found, .last (lists_of_importForFunction hlisted) hpackage,
      hfound, ?_⟩
    rw [hplace, Path.join_join]
    rfl
  | @passed place uses imports self wanted package outcome hlisted hpackage hpassed hrest ih =>
    rw [hplace, Path.join_join] at ih
    obtain ⟨links, last, function, source, found, hchain, hfound, heq⟩ := ih rfl hok
    refine ⟨(self, wanted) :: links, last, function, source, found,
      .cons (lists_of_importForFunction hlisted) hpackage hpassed hchain, hfound, ?_⟩
    rw [heq, List.append_assoc]
    rfl

theorem exists_chain_of_importedFunction {function : Operation}
    (h : resolve roots packages = .ok resolution)
    (hfunction : importedFunction uses roots resolution.packages = .ok function) :
    ∃ links self wanted package found,
      Chain resolution.packages uses roots (links ++ [(self, wanted)]) package ∧
        package.function? wanted.name = some found ∧
        function = attributed found (Path.join ("." :: linkPaths (links ++ [(self, wanted)])))
          self wanted := by
  have hstart : "." = Path.join ("." :: []) := by decide
  have hchain := (finds_importedFunction h uses).exists_chain hstart hfunction
  simp only [List.nil_append] at hchain
  exact hchain

/-- The search for an imported function among resolved packages ends, and fails only for want of a
path or of a listing, if root imports name the headers of the packages that they lead to. What it
returns is the function that the package it names declares under the name it gives, and a chain of
imports leads there along the path it gives. The path starts at the importing document; a
first import whose path is rooted is read from there too. -/
theorem importedFunction_attributed (h : resolve roots packages = .ok resolution)
    (hheaders : ∀ self ∈ roots, ∀ package ∈ packages,
      self.package.key = package.header.key → self.package = package.header) (uses : String) :
    Finds resolution.packages "." uses roots (importedFunction uses roots resolution.packages) ∧
      (∀ error, importedFunction uses roots resolution.packages = .error error →
        error = .pathRequired ∨ ∃ name, error = .unknownFunction name) ∧
      ∀ function, importedFunction uses roots resolution.packages = .ok function →
        ∃ imported package found links self wanted,
          function = { found with step := { found.step with imported := some imported } } ∧
          find? imported.package resolution.packages = some package ∧
          package.function? imported.name = some found ∧
          Chain resolution.packages uses roots (links ++ [(self, wanted)]) package ∧
          imported = { package := self.package, name := wanted.name, asName := wanted.asName,
                       path := Path.join ("." :: linkPaths (links ++ [(self, wanted)])) } ∧
          ((∀ path ∈ (linkPaths (links ++ [(self, wanted)])).head?, ¬ Path.IsRooted path) →
            imported.path = Path.join (linkPaths (links ++ [(self, wanted)]))) := by
  have hfinds := finds_importedFunction h uses
  refine ⟨hfinds, fun error herror ↦ ?_, fun function hfunction ↦ ?_⟩
  · exact hfinds.error_cases herror (fun package hpackage ↦ provided_of_mem_packages h hpackage)
      (provided_roots h hheaders)
  · obtain ⟨links, self, wanted, package, found, hchain, hfound, heq⟩ :=
      exists_chain_of_importedFunction h hfunction
    refine ⟨_, package, found, links, self, wanted, heq, hchain.find?_last, hfound, hchain, rfl,
      fun hrelative ↦ ?_⟩
    exact Path.join_dot_of_relative (by simp [linkPaths]) fun path hpath ↦
      ⟨hchain.path_ne_empty path (List.mem_of_head? hpath), hrelative path hpath⟩

/-! ### A function that is passed on -/

def mathPackage : Package :=
  { apiVersion := "0.6.0"
    header := { owner := "acme", name := "math", version := "1.0.0" }
    functions :=
      [{ operator := .map, step := { uses := "double", output := some { value := "u32" } } }] }

/-- Passes a function on under another name. -/
def toolsPackage : Package :=
  { apiVersion := "0.6.0"
    header := { owner := "acme", name := "tools", version := "1.0.0" }
    imports := [{ package := mathPackage.header, path := "../math",
                  functions := [{ name := "double", asName := "twice" }] }] }

def toolsImports : List Import :=
  [{ package := toolsPackage.header, path := "pkgs/tools",
     functions := [{ name := "twice", asName := "again" }] }]

theorem resolve_tools : resolve toolsImports [toolsPackage, mathPackage] =
    .ok { imports := toolsImports, resolved := [mathPackage, toolsPackage] } := by
  cbv

/-- The function as a step takes it over. -/
def importedDouble : Operation :=
  { operator := .map
    step :=
      { uses := "double"
        output := some { value := "u32" }
        imported :=
          some { package := mathPackage.header, name := "double", asName := "twice",
                 path := "pkgs/math" } } }

theorem importedFunction_tools :
    importedFunction "again" toolsImports (Resolution.packages
      { imports := toolsImports, resolved := [mathPackage, toolsPackage] }) =
        .ok importedDouble := by
  have hpackages :
      Resolution.packages { imports := toolsImports, resolved := [mathPackage, toolsPackage] } =
      [mathPackage, toolsPackage] := by
    have hle : mathPackage.header.key ≤ toolsPackage.header.key := by decide
    simp [Resolution.packages, Text.sortByName, List.mergeSort, hle]
  rw [hpackages]
  rfl

/-- The function is found behind two names, and its path leads from the first package to the
second. -/
theorem importedFunction_attributed_tools :
    resolve toolsImports [toolsPackage, mathPackage] =
        .ok { imports := toolsImports, resolved := [mathPackage, toolsPackage] } ∧
      (∀ self ∈ toolsImports, ∀ package ∈ [toolsPackage, mathPackage],
        self.package.key = package.header.key → self.package = package.header) ∧
      Finds (Resolution.packages
        { imports := toolsImports, resolved := [mathPackage, toolsPackage] }) "." "again"
        toolsImports (.ok importedDouble) ∧
      ∃ package links self wanted,
        Chain (Resolution.packages
          { imports := toolsImports, resolved := [mathPackage, toolsPackage] }) "again"
            toolsImports (links ++ [(self, wanted)]) package ∧
          Path.join ("." :: linkPaths (links ++ [(self, wanted)])) = "pkgs/math" := by
  have hheaders : ∀ self ∈ toolsImports, ∀ package ∈ [toolsPackage, mathPackage],
      self.package.key = package.header.key → self.package = package.header := by decide
  obtain ⟨hfinds, -, hfound⟩ := importedFunction_attributed resolve_tools hheaders "again"
  rw [importedFunction_tools] at hfinds
  obtain ⟨imported, package, found, links, self, wanted, heq, -, -, hchain, himported, -⟩ :=
    hfound importedDouble importedFunction_tools
  have hpath : some "pkgs/math" = some imported.path :=
    congrArg (fun function ↦ function.step.imported.map (·.path)) heq
  rw [himported] at hpath
  exact ⟨resolve_tools, hheaders, hfinds, package, links, self, wanted, hchain,
    (Option.some.inj hpath).symm⟩

end FlowSpec.Package
