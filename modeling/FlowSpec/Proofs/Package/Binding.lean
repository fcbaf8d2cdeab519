import FlowSpec.Proofs.Package.Crawl
import FlowSpec.Proofs.Package.Idempotence

/-!
What an import is bound to. Loading follows the path of an import and takes whatever package it
finds there; resolution takes the package of the key that the import names, wherever it was found.
The document at the path and the package of the name are both there when loading and resolution
succeed, and nothing compares them. So an import is bound to the document at its path unless
another import that was followed leads to a package of the name (`binds_iff_not_masked`).
-/

set_option autoImplicit false

namespace FlowSpec.Package

open Outcome

variable {loader final : Loader} {useDevelopment : Bool} {folder : String} {roots : List Import}
  {places : List Placement} {packages order : List Package} {package resolved : Package}
  {site : Site}

/-- The document at the import's path declares the header that the import names. -/
def Loader.Binds (loader : Loader) (site : Site) : Prop :=
  ∃ document, loader.package? site.target = some document ∧ document.header = site.self.package

/-- The document at the import's path declares another header, and one of the imports that were
followed leads to a package of the key that the import names. -/
structure Loader.Masked (loader : Loader) (followed : List Site) (site : Site) : Prop where
  misled : ∃ document, loader.package? site.target = some document ∧
    document.header ≠ site.self.package
  elsewhere : ∃ other ∈ followed, ∃ document, loader.package? other.target = some document ∧
    document.header.key = site.self.package.key

theorem Loader.Binds.not_masked {followed : List Site} (h : loader.Binds site) :
    ¬ loader.Masked followed site := by
  rintro ⟨⟨document, hdocument, hother⟩, -⟩
  obtain ⟨same, hsame, hheader⟩ := h
  rw [hdocument, Option.some.injEq] at hsame
  exact hother (hsame ▸ hheader)

/-! ### Paths -/

theorem Complete.exists_document (h : Complete loader useDevelopment folder roots places)
    (hsite : site ∈ sites folder roots places) :
    ∃ document, loader.package? site.target = some document := by
  have hleads : ∃ target, loader.Leads site.folder site.self target := by
    rcases List.mem_append.mp hsite with hroot | hplaced
    · obtain ⟨self, hself, rfl⟩ := List.mem_map.mp hroot
      obtain ⟨target, -, hleads⟩ := h.roots self hself
      exact ⟨target.package, hleads⟩
    · obtain ⟨place, hplace, himport⟩ := List.mem_flatMap.mp hplaced
      obtain ⟨self, hself, rfl⟩ := List.mem_map.mp himport
      obtain ⟨target, -, hleads⟩ := h.imports place hplace self hself
      exact ⟨target.package, hleads⟩
  obtain ⟨-, document, hdocument, -⟩ := hleads
  exact ⟨document, hdocument⟩

/-- A package that a key finds was declared where one of the imports leads to. -/
theorem Complete.exists_site (h : Complete loader useDevelopment folder roots places)
    (hsited : ∀ place ∈ places, ∃ site ∈ sites folder roots places, site.target = place.folder)
    {key : String} (hfound : byKey? key (places.map Placement.package) = some package) :
    ∃ other ∈ sites folder roots places, ∃ document, loader.package? other.target = some document ∧
      document.header.key = key := by
  obtain ⟨place, hplace, rfl, hkey⟩ := (byKey?_placed h.nodup).mp hfound
  obtain ⟨other, hother, htarget⟩ := hsited place hplace
  obtain ⟨document, hdocument, hpackage⟩ := h.holds place hplace
  refine ⟨other, hother, document, htarget ▸ hdocument, ?_⟩
  rw [← hkey, hpackage]
  rfl

/-! ### Names -/

/-- The packages of a resolution were loaded, and a key that they or the root imports name is that
of a package that was loaded and of one that is resolved. -/
structure Resolution.ClosedOver (resolution : Resolution) (packages : List Package)
    (roots : List Import) : Prop where
  loaded : ∀ resolved ∈ resolution.resolved, ∃ package ∈ packages, Merged package resolved
  named : ∀ self, (self ∈ roots ∨ ∃ resolved ∈ resolution.resolved, self ∈ resolved.imports) →
    (∃ package, byKey? self.package.key packages = some package) ∧
      ∃ package, byKey? self.package.key resolution.resolved = some package

theorem closedOver_of_resolve {resolution : Resolution}
    (h : resolve roots packages = .ok resolution) :
    resolution.ClosedOver packages roots := by
  obtain ⟨order, hsort, hrest⟩ := bind_eq_ok_iff.mp h
  obtain ⟨resolved, hresolved, hresolution⟩ := bind_eq_ok_iff.mp hrest
  obtain rfl := Except.ok.inj hresolution
  have hordered := ordered_of_sort hsort
  have hmerged := merged_of_resolveInOrder hresolved
  refine ⟨fun package hpackage ↦ ?_, fun self hself ↦ ?_⟩
  · obtain ⟨source, hsource, hsame⟩ := exists_left_of_forall₂ hmerged hpackage
    exact ⟨source, (hordered.indexed source hsource).mem, hsame⟩
  · -- the package of the name is in the order
    have hfound : ∃ imported ∈ order, byKey? self.package.key packages = some imported := by
      rcases hself with hroot | ⟨package, hpackage, himport⟩
      · obtain ⟨imported, himported, hkey⟩ := (sorting_of_sort hsort).reaches self hroot
        exact ⟨imported, himported, by rwa [byKey?_indexPackages] at hkey⟩
      · obtain ⟨source, hsource, hsame⟩ := exists_left_of_forall₂ hmerged hpackage
        obtain ⟨before, after, heq⟩ := List.append_of_mem hsource
        obtain ⟨imported, himported, hkey⟩ :=
          hordered.exists_before heq self (hsame.imports ▸ himport)
        exact ⟨imported, heq ▸ List.mem_append_left _ himported, hkey⟩
    obtain ⟨imported, himported, hkey⟩ := hfound
    obtain ⟨result, hresult, -⟩ := byKey?_of_forall₂ hmerged hordered.nodup_keys
      (fun _ _ _ hsame ↦ hsame.header) himported
    exact ⟨⟨imported, hkey⟩, result, key_of_byKey? hkey ▸ hresult⟩

/-! ### Two packages in two folders -/

/-- A file that was not read before is read and kept. -/
theorem outcome_read_of_text {file text : String} (header : Header)
    (hfile : Path.join [folder, loader.file] = file) (hnew : loader.cache.lookup file = none)
    (hread : loader.tree.read file = .ok text) (hpackage : ofText file text = .ok package) :
    (read header folder).outcome loader =
      (.ok package, { loader with cache := (file, package) :: loader.cache }) := by
  subst hfile
  simp only [run_read, hnew, hread, hpackage]

namespace Shop

/-- A package that declares nothing but its name. -/
def bare (name : String) : Package :=
  { apiVersion := "0.6.0", header := { owner := "shop", name, version := "1.0.0" } }

/-- The text of its document. -/
def text (name : String) : String :=
  "apiVersion: 0.6.0\nmeta:\n  name: " ++ name ++ "\n  version: 1.0.0\n  namespace: shop\n"

def header (name : String) : Yaml.Node :=
  .mapping "!!map" 3
    [(.scalar "!!str" 3 "name", .scalar "!!str" 3 name),
      (.scalar "!!str" 4 "version", .scalar "!!str" 4 "1.0.0"),
      (.scalar "!!str" 5 "namespace", .scalar "!!str" 5 "shop")]

def root (name : String) : Yaml.Node :=
  .mapping "!!map" 1
    [(.scalar "!!str" 1 "apiVersion", .scalar "!!str" 1 "0.6.0"),
      (.scalar "!!str" 2 "meta", header name)]

/-- The packages whose texts are read. -/
def names : List String := ["orders", "billing"]

theorem readSection_header (name : String) :
    Document.readSection Document.metaReader "meta" (header name) =
      .ok { name, version := "1.0.0", owner := "shop" } := by
  have hmerge : Yaml.lastMerge [(.scalar "!!str" 3 "name", .scalar "!!str" 3 name),
      (.scalar "!!str" 4 "version", .scalar "!!str" 4 "1.0.0"),
      (.scalar "!!str" 5 "namespace", .scalar "!!str" 5 "shop")] [] = [] := by
    simp [Yaml.lastMerge, Yaml.Node.isMerge]
  simp only [Document.readSection, Yaml.Reader.decode, Document.metaReader, Yaml.Reader.record,
    header, Yaml.readKinds, Yaml.readEntries]
  simp only [Yaml.Node.target, pure_bind, Yaml.Node.pairs, hmerge]
  rfl

theorem parsePackage_text {name : String} (hname : name ∈ names) :
    Document.parsePackage (text name) =
      .ok
        { version := { text := "0.6.0", version := { segments := [0, 6, 0] } }
          document :=
            { apiVersion := "0.6.0"
              header := { name, version := "1.0.0", owner := "shop" } } } := by
  have hroot : ∀ name ∈ names, (Document.parseRoot (text name)).toOption = some (root name) := by
    decide +kernel
  have hversion : ∀ name ∈ names, (Document.readVersion (root name)).toOption =
      some { text := "0.6.0", version := { segments := [0, 6, 0] } } := by decide +kernel
  have hsections : (root name).pairs.foldlM Document.packageSection { apiVersion := "0.6.0" } =
      .ok { apiVersion := "0.6.0", header := { name, version := "1.0.0", owner := "shop" } } := by
    simp only [root, Yaml.Node.pairs, List.foldlM_cons, Document.packageSection, Yaml.Node.text,
      readSection_header]
    rfl
  have hnamed : ∀ name ∈ names, ∀ node,
      Document.requireName node { name, version := "1.0.0", owner := "shop" } = .ok () :=
    List.forall_mem_cons.mpr ⟨fun _ ↦ rfl, List.forall_mem_singleton.mpr fun _ ↦ rfl⟩
  rw [Document.parsePackage, eq_ok_of_toOption (hroot name hname), ok_bind,
    eq_ok_of_toOption (hversion name hname), ok_bind, hsections]
  simp only [Except.mapError, ok_bind, hnamed name hname]
  rfl

theorem lower_bare (name : String) :
    Lowering.package
      { apiVersion := "0.6.0", header := { name, version := "1.0.0", owner := "shop" } } =
      .ok (bare name) := by
  have hversion : (Lowering.parseVersion "0.6.0").toOption =
      some { text := "0.6.0", version := { segments := [0, 6, 0] } } := by decide +kernel
  simp only [Lowering.package, eq_ok_of_toOption hversion, ok_bind, Lowering.runLower,
    Lowering.declare, Text.sortByName, List.mergeSort_nil]
  change Except.ok { bare name with types := Lowering.Table.types [] } = _
  simp only [Lowering.Table.types, Text.sortByName, List.mergeSort_nil]
  rfl

theorem ofText_text {name : String} (hname : name ∈ names) (file : String) :
    ofText file (text name) = .ok (bare name) := by
  simp only [ofText, parsePackage_text hname, Except.mapError, ok_bind, lower_bare]

theorem merge_bare (name : String) (children : List Package) :
    merge (bare name) children = .ok (bare name) := by
  have hscope : ({} : Declarations).toScope = .ok { types := [] } := by
    simp only [Declarations.toScope, Text.sortByName, List.mergeSort_nil]
    rfl
  have hmerged : Merging.finish { declarations := {} } = .ok ([], []) := by
    rw [Merging.finish, hscope]
    rfl
  have hbare : (bare name).scope = .ok { types := [] } := hscope
  change (Merging.finish { declarations := {} } >>= _) = _
  rw [hmerged, ok_bind]
  change ((bare name).scope.mapError _ >>= _) = _
  rw [hbare]
  rfl

/-- Imports of the two packages, each from the folder of its name. -/
def imports : List Import := names.map fun name ↦ { package := (bare name).header, path := name }

/-- A package in the folder for the orders and one in that for the bills. -/
def storage (first second : String) : Loader :=
  { tree :=
      { files := [("/work/orders/sdf-package.yaml", text first),
          ("/work/billing/sdf-package.yaml", text second)]
        folders := ["/", "/work", "/work/orders", "/work/billing"] } }

variable {first second : String}

theorem file_orders :
    Path.join [Path.join ["/work", "orders"], defaultFile] = "/work/orders/sdf-package.yaml" := by
  decide

theorem file_billing :
    Path.join [Path.join ["/work", "billing"], defaultFile] = "/work/billing/sdf-package.yaml" := by
  decide

theorem package?_storage (hfirst : first ∈ names) (hsecond : second ∈ names) :
    (storage first second).package? (Path.join ["/work", "orders"]) = some (bare first) ∧
      (storage first second).package? (Path.join ["/work", "billing"]) = some (bare second) :=
  ⟨package?_eq_of_read
      (outcome_read_of_text (bare "orders").header file_orders rfl rfl (ofText_text hfirst _)),
    package?_eq_of_read
      (outcome_read_of_text (bare "billing").header file_billing rfl rfl (ofText_text hsecond _))⟩

theorem exists_outcome_fetch (hfirst : first ∈ names) (hsecond : second ∈ names)
    (hkeys : (bare second).header.key ≠ (bare first).header.key) :
    ∃ final, (fetch "/work" imports [] false).outcome (storage first second) =
      (.ok ([bare first, bare second], imports), final) := by
  have hcrawl : Crawl false [] "/work" imports {} (storage first second)
      (.ok { packages := [bare first, bare second],
             keys := [(bare second).header.key, (bare first).header.key] }) _ :=
    .entered rfl (outcome_read_of_text _ file_orders rfl rfl (ofText_text hfirst _))
      List.not_mem_nil .done
      (.entered rfl (outcome_read_of_text _ file_billing rfl rfl (ofText_text hsecond _))
        (by simpa using hkeys) .done .done)
  obtain ⟨outcome, final, hother, hfetch⟩ :=
    crawl_fetch (storage first second) "/work" imports [] false
  obtain ⟨rfl, rfl⟩ := hcrawl.unique hother
  exact ⟨_, hfetch⟩

theorem visit_bare {index order : List Package} {name : String} (fuel : Nat)
    (hnew : byKey? (bare name).header.key order = none) :
    visit index (fuel + 1) [] order (bare name) = .ok (order ++ [bare name]) := by
  have hdependencies : dependencies index (bare name) = .ok [] := rfl
  rw [visit, hnew, hdependencies]
  change (visitAll index fuel [bare name] order [] >>= _) = _
  rw [visitAll]
  rfl

theorem resolve_bare (hpair : [first, second] ∈ [["orders", "billing"], ["billing", "orders"]]) :
    resolve imports [bare first, bare second] =
      .ok { imports, resolved := [bare "orders", bare "billing"] } := by
  have hfound : ∀ name ∈ names,
      lookup (indexPackages [bare first, bare second]) (bare name).header.key =
      .ok (bare name) := by
    intro name hname
    rw [lookup_eq_ok_iff]
    revert name
    rcases List.mem_pair.mp hpair with heq | heq <;> cases heq <;> decide
  have hsort : sort (indexPackages [bare first, bare second]) imports =
      .ok [bare "orders", bare "billing"] := by
    change (lookup _ (bare "orders").header.key >>= _) >>= _ = _
    rw [hfound "orders" (by decide), ok_bind, visit_bare _ rfl, ok_bind]
    change (lookup _ (bare "billing").header.key >>= _) >>= _ = _
    rw [hfound "billing" (by decide), ok_bind, visit_bare _ rfl]
    rfl
  rw [resolve, hsort, ok_bind]
  simp only [resolveInOrder, List.foldlM_cons, merge_bare]
  rfl

end Shop

/-! ### Imports -/

/-- What success tells of an import: a package of the key that it names is resolved, and the
document at its path declares the header that it names unless the import is masked. -/
structure Loader.Settles (loader : Loader) (followed : List Site) (resolution : Resolution)
    (site : Site) : Prop where
  resolved : ∃ package, byKey? site.self.package.key resolution.resolved = some package
  binds_iff : loader.Binds site ↔ ¬ loader.Masked followed site

theorem Complete.settles {resolution : Resolution}
    (h : Complete loader useDevelopment folder roots places)
    (hsited : ∀ place ∈ places, ∃ site ∈ sites folder roots places, site.target = place.folder)
    (hclosed : resolution.ClosedOver (places.map Placement.package) roots)
    (hsite : site ∈ sites folder roots places)
    (hnamed : site.self ∈ roots ∨ ∃ resolved ∈ resolution.resolved, site.self ∈ resolved.imports) :
    loader.Settles (sites folder roots places) resolution site := by
  obtain ⟨⟨package, hpackage⟩, hresolved⟩ := hclosed.named site.self hnamed
  refine ⟨hresolved, fun hbinds ↦ hbinds.not_masked, fun hunmasked ↦ ?_⟩
  obtain ⟨document, hdocument⟩ := h.exists_document hsite
  refine ⟨document, hdocument, ?_⟩
  by_contra hother
  exact hunmasked ⟨⟨document, hdocument, hother⟩, h.exists_site hsited hpackage⟩

/-- Where imports are followed and resolved with success, each root import and each import of a
package that is resolved is bound to the document at its path, which declares the header that
the import names, or masked by an import that was followed and leads to a package of that name. -/
theorem binds_iff_not_masked {imports development : List Import} {resolution : Resolution}
    (hfetch : (fetch folder imports development useDevelopment).outcome loader =
      (.ok (packages, roots), final))
    (hresolve : resolve roots packages = .ok resolution) :
    ∃ places, packages = places.map Placement.package ∧
      Complete loader useDevelopment folder roots places ∧
      (∀ self ∈ roots, loader.Settles (sites folder roots places) resolution ⟨folder, self⟩) ∧
      ∀ resolved ∈ resolution.resolved, ∃ place ∈ places, Merged place.package resolved ∧
        ∀ self ∈ resolved.imports,
          loader.Settles (sites folder roots places) resolution ⟨place.folder, self⟩ := by
  obtain ⟨outcome, last, hcrawl, houtcome⟩ :=
    crawl_fetch loader folder imports development useDevelopment
  rw [hfetch, Prod.mk.injEq] at houtcome
  obtain ⟨found, rfl, hfound⟩ := map_eq_ok_iff.mp houtcome.1.symm
  obtain ⟨rfl, rfl⟩ := Prod.mk.inj hfound
  obtain ⟨places, hpackages, hcomplete, hsited⟩ := hcrawl.complete
  rw [hpackages] at hresolve
  have hclosed := closedOver_of_resolve hresolve
  refine ⟨places, hpackages, hcomplete, fun self hself ↦ ?_, fun resolved hresolved ↦ ?_⟩
  · exact hcomplete.settles hsited hclosed (List.mem_append_left _ (List.mem_map_of_mem hself))
      (.inl hself)
  · obtain ⟨package, hpackage, hmerged⟩ := hclosed.loaded resolved hresolved
    obtain ⟨place, hplace, rfl⟩ := List.mem_map.mp hpackage
    refine ⟨place, hplace, hmerged, fun self hself ↦ ?_⟩
    exact hcomplete.settles hsited hclosed (mem_sites_of_mem hplace (hmerged.imports ▸ hself))
      (.inr ⟨resolved, hresolved, hself⟩)

open Shop

/-- Where each package is in the folder of its name, no import is masked. -/
theorem binds_iff_not_masked_orders : ∃ final,
    (fetch "/work" Shop.imports [] false).outcome (storage "orders" "billing") =
      (.ok ([bare "orders", bare "billing"], Shop.imports), final) ∧
    resolve Shop.imports [bare "orders", bare "billing"] =
      .ok { imports := Shop.imports, resolved := [bare "orders", bare "billing"] } ∧
    ∃ places, [bare "orders", bare "billing"] = places.map Placement.package ∧
      ∀ self ∈ Shop.imports, (storage "orders" "billing").Binds ⟨"/work", self⟩ ∧
        ¬ (storage "orders" "billing").Masked (sites "/work" Shop.imports places)
          ⟨"/work", self⟩ := by
  obtain ⟨final, hfetch⟩ :=
    @exists_outcome_fetch "orders" "billing" (by decide) (by decide) (by decide)
  have hresolve := @resolve_bare "orders" "billing" (by decide)
  obtain ⟨places, hplaces, -, hroots, -⟩ := binds_iff_not_masked hfetch hresolve
  obtain ⟨horders, hbilling⟩ := @package?_storage "orders" "billing" (by decide) (by decide)
  have hbinds : ∀ self ∈ Shop.imports, (storage "orders" "billing").Binds ⟨"/work", self⟩ :=
    List.forall_mem_cons.mpr ⟨⟨_, horders, rfl⟩, List.forall_mem_singleton.mpr ⟨_, hbilling, rfl⟩⟩
  exact ⟨final, hfetch, hresolve, places, hplaces,
    fun self hself ↦ ⟨hbinds self hself, (hroots self hself).binds_iff.mp (hbinds self hself)⟩⟩

/-- Two packages that are in each other's folders are accepted, though neither import leads to what
it names. -/
theorem swapped_folders_accepted : ∃ final,
    (fetch "/work" Shop.imports [] false).outcome (storage "billing" "orders") =
      (.ok ([bare "billing", bare "orders"], Shop.imports), final) ∧
    resolve Shop.imports [bare "billing", bare "orders"] =
      .ok { imports := Shop.imports, resolved := [bare "orders", bare "billing"] } ∧
    ∀ self ∈ Shop.imports, ¬ (storage "billing" "orders").Binds ⟨"/work", self⟩ := by
  obtain ⟨final, hfetch⟩ :=
    @exists_outcome_fetch "billing" "orders" (by decide) (by decide) (by decide)
  obtain ⟨horders, hbilling⟩ := @package?_storage "billing" "orders" (by decide) (by decide)
  refine ⟨final, hfetch, @resolve_bare "billing" "orders" (by decide),
    List.forall_mem_cons.mpr ⟨?_, ?_⟩⟩
  · rintro ⟨document, hdocument, hheader⟩
    obtain rfl := Option.some.inj (hdocument.symm.trans horders)
    exact absurd hheader (by decide)
  · refine List.forall_mem_singleton.mpr ?_
    rintro ⟨document, hdocument, hheader⟩
    obtain rfl := Option.some.inj (hdocument.symm.trans hbilling)
    exact absurd hheader (by decide)

end FlowSpec.Package
