import FlowSpec.Package.Loader
import FlowSpec.Proofs.Outcome
import FlowSpec.Proofs.Package.Graph
import FlowSpec.Proofs.Scope.Declarations
import Mathlib.Data.List.Perm.Subperm

/-!
Following imports from folder to folder. What a folder holds does not change while packages are
read, so the packages that can be entered are as many as there are texts to read, and the bound on
the depth is never met: what is returned is what following imports without a bound ends with
(`Crawl`). Each package is found in a folder, and the packages that are returned are closed under
imports as they lead from there. Where an import leads to a package that is still being entered
there is a circle; otherwise a package stands behind all packages that it imports.
-/

set_option autoImplicit false

namespace FlowSpec.Package

open Outcome Relation

/-! ### What folders hold -/

/-- What loading ends with, and the loader that it leaves. -/
def Load.outcome {α : Type} (load : Load α) (loader : Loader) : Except Error α × Loader :=
  load.run.run loader

/-- The package that reading a folder gives, if there is one. -/
def Loader.package? (loader : Loader) (folder : String) : Option Package :=
  let file := Path.join [folder, loader.file]
  match loader.cache.lookup file with
  | some package => some package
  | none =>
    match loader.tree.read file with
    | .error _ => none
    | .ok text => (ofText file text).toOption

variable {loader after final : Loader} {header : Header} {folder : String} {package : Package}
  {error : Error}

/-- A package that is kept under the file that it was read from is what the file gives. -/
theorem package?_cons {text : String}
    (hnew : loader.cache.lookup (Path.join [folder, loader.file]) = none)
    (hread : loader.tree.read (Path.join [folder, loader.file]) = .ok text)
    (hpackage : ofText (Path.join [folder, loader.file]) text = .ok package) :
    Loader.package? { loader with
                      cache := (Path.join [folder, loader.file], package) :: loader.cache } =
      loader.package? := by
  funext other
  unfold Loader.package?
  by_cases hsame : Path.join [other, loader.file] = Path.join [folder, loader.file]
  · simp [hsame, hnew, hread, hpackage, Except.toOption]
  · simp [List.lookup_cons, beq_false_of_ne hsame]

theorem run_read (header : Header) (folder : String) (loader : Loader) :
    (read header folder).outcome loader =
      match loader.cache.lookup (Path.join [folder, loader.file]) with
      | some package => (.ok package, loader)
      | none =>
        match loader.tree.read (Path.join [folder, loader.file]) with
        | .error _ => (.error (.noFile header (Path.join [folder, loader.file])), loader)
        | .ok text =>
          match ofText (Path.join [folder, loader.file]) text with
          | .error error => (.error error, loader)
          | .ok package =>
            (.ok package,
              { loader with
                cache := (Path.join [folder, loader.file], package) :: loader.cache }) := by
  change ((match loader.cache.lookup (Path.join [folder, loader.file]) with
    | some package => pure package
    | none => _ : Load Package)).run.run loader = _
  cases loader.cache.lookup (Path.join [folder, loader.file]) with
  | some package => rfl
  | none =>
    dsimp only
    cases loader.tree.read (Path.join [folder, loader.file]) with
    | error cause => rfl
    | ok text =>
      dsimp only
      cases ofText (Path.join [folder, loader.file]) text <;> rfl

/-- Reading leaves what folders hold as it is, and what is read is what the folder holds. -/
theorem package?_eq_of_outcome_read {outcome : Except Error Package}
    (h : (read header folder).outcome loader = (outcome, after)) :
    after.package? = loader.package? ∧ ∀ package,
      outcome = .ok package → loader.package? folder = some package := by
  rw [run_read] at h
  cases hcache : loader.cache.lookup (Path.join [folder, loader.file]) with
  | some package =>
    simp only [hcache] at h
    cases h
    simp [Loader.package?, hcache]
  | none =>
    cases htree : loader.tree.read (Path.join [folder, loader.file]) with
    | error cause =>
      simp only [hcache, htree] at h
      cases h
      simp
    | ok text =>
      cases htext : ofText (Path.join [folder, loader.file]) text with
      | error error =>
        simp only [hcache, htree, htext] at h
        cases h
        simp
      | ok package =>
        simp only [hcache, htree, htext] at h
        cases h
        refine ⟨package?_cons hcache htree htext, ?_⟩
        simp [Loader.package?, hcache, htree, htext, Except.toOption]

theorem package?_of_read {outcome : Except Error Package}
    (h : (read header folder).outcome loader = (outcome, after)) :
    after.package? = loader.package? :=
  (package?_eq_of_outcome_read h).1

theorem package?_eq_of_read (h : (read header folder).outcome loader = (.ok package, after)) :
    loader.package? folder = some package :=
  (package?_eq_of_outcome_read h).2 package rfl

/-! ### Following imports without a bound -/

/-- The package with the paths that its imports are followed by. -/
def withPaths (useDevelopment : Bool) (package : Package) : Package :=
  { package with
    imports := Import.effective package.imports package.developmentImports useDevelopment }

/-- Following imports from a folder ends with an outcome. A package is entered at the first import
that leads to its key, before its own imports are followed, and returned behind them. -/
inductive Crawl (useDevelopment : Bool) : List Import → String → List Import → Found → Loader →
    Except Error Found → Loader → Prop
  | done {development : List Import} {folder : String} {found : Found} {loader : Loader} :
      Crawl useDevelopment development folder [] found loader (.ok found) loader
  | noPath {development rest : List Import} {folder : String} {self : Import} {found : Found}
      {loader : Loader} (hpath : self.path.isEmpty) :
      Crawl useDevelopment development folder (self :: rest) found loader
        (.error (missingPath self.package development useDevelopment)) loader
  | unreadable {development rest : List Import} {folder : String} {self : Import} {found : Found}
      {loader after : Loader} {error : Error} (hpath : self.path.isEmpty = false)
      (hread : (read self.package (Path.join [folder, self.path])).outcome loader =
        (.error error, after)) :
      Crawl useDevelopment development folder (self :: rest) found loader (.error error) after
  | known {development rest : List Import} {folder : String} {self : Import} {found : Found}
      {loader after final : Loader} {package : Package} {outcome : Except Error Found}
      (hpath : self.path.isEmpty = false)
      (hread : (read self.package (Path.join [folder, self.path])).outcome loader =
        (.ok package, after))
      (hknown : package.header.key ∈ found.keys)
      (hrest : Crawl useDevelopment development folder rest found after outcome final) :
      Crawl useDevelopment development folder (self :: rest) found loader outcome final
  | failed {development rest : List Import} {folder : String} {self : Import} {found : Found}
      {loader after final : Loader} {package : Package} {error : Error}
      (hpath : self.path.isEmpty = false)
      (hread : (read self.package (Path.join [folder, self.path])).outcome loader =
        (.ok package, after)) (hnew : package.header.key ∉ found.keys)
      (hinner : Crawl useDevelopment package.developmentImports (Path.join [folder, self.path])
        (withPaths useDevelopment package).imports
        { found with keys := package.header.key :: found.keys } after (.error error) final) :
      Crawl useDevelopment development folder (self :: rest) found loader (.error error) final
  | entered {development rest : List Import} {folder : String} {self : Import} {found inner : Found}
      {loader after between final : Loader} {package : Package} {outcome : Except Error Found}
      (hpath : self.path.isEmpty = false)
      (hread : (read self.package (Path.join [folder, self.path])).outcome loader =
        (.ok package, after))
      (hnew : package.header.key ∉ found.keys)
      (hinner : Crawl useDevelopment package.developmentImports (Path.join [folder, self.path])
        (withPaths useDevelopment package).imports
        { found with keys := package.header.key :: found.keys } after (.ok inner) between)
      (hrest : Crawl useDevelopment development folder rest
        { inner with packages := inner.packages ++ [withPaths useDevelopment package] } between
        outcome final) :
      Crawl useDevelopment development folder (self :: rest) found loader outcome final

namespace Crawl

variable {useDevelopment : Bool} {development imports rest : List Import} {self : Import}
  {found result : Found} {outcome other : Except Error Found} {last : Loader}

/-- There is one outcome. -/
theorem unique (h : Crawl useDevelopment development folder imports found loader outcome final)
    (h' : Crawl useDevelopment development folder imports found loader other last) :
    other = outcome ∧ last = final := by
  induction h generalizing other last with
  | done =>
    cases h'
    exact ⟨rfl, rfl⟩
  | noPath hpath => cases h' <;> simp_all
  | unreadable hpath hread => cases h' <;> simp_all
  | known hpath hread hknown hrest ih =>
    cases h' with
    | known hpath' hread' hknown' hrest' =>
      cases hread.symm.trans hread'
      exact ih hrest'
    | _ => simp_all
  | failed hpath hread hnew hinner ih =>
    cases h' with
    | failed hpath' hread' hnew' hinner' =>
      cases hread.symm.trans hread'
      exact ih hinner'
    | entered hpath' hread' hnew' hinner' hrest' =>
      cases hread.symm.trans hread'
      cases (ih hinner').1
    | _ => simp_all
  | entered hpath hread hnew hinner hrest ihinner ihrest =>
    cases h' with
    | failed hpath' hread' hnew' hinner' =>
      cases hread.symm.trans hread'
      cases (ihinner hinner').1
    | entered hpath' hread' hnew' hinner' hrest' =>
      cases hread.symm.trans hread'
      obtain ⟨hsame, rfl⟩ := ihinner hinner'
      cases hsame
      exact ihrest hrest'
    | _ => simp_all

/-- Following imports leaves what folders hold as it is. -/
theorem package?_eq
    (h : Crawl useDevelopment development folder imports found loader outcome final) :
    final.package? = loader.package? := by
  induction h with
  | done => rfl
  | noPath => rfl
  | unreadable _ hread => exact package?_of_read hread
  | known _ hread _ _ ih => exact ih.trans (package?_of_read hread)
  | failed _ hread _ _ ih => exact ih.trans (package?_of_read hread)
  | entered _ hread _ _ _ ihinner ihrest =>
    exact ihrest.trans (ihinner.trans (package?_of_read hread))

end Crawl

/-! ### The bound is never met -/

/-- A folder holds a package of this key. -/
def Loader.Offers (loader : Loader) (key : String) : Prop :=
  ∃ folder package, loader.package? folder = some package ∧ package.header.key = key

/-- The keys that have been entered are different, and folders hold packages of them. -/
structure Entered (loader : Loader) (keys : List String) : Prop where
  nodup : keys.Nodup
  offered : ∀ key ∈ keys, loader.Offers key

theorem Entered.cons {keys : List String} (h : Entered loader keys)
    (hread : (read header folder).outcome loader = (.ok package, after))
    (hnew : package.header.key ∉ keys) :
    Entered after (package.header.key :: keys) where
  nodup := List.nodup_cons.mpr ⟨hnew, h.nodup⟩
  offered := by
    have hsame := package?_of_read hread
    rw [List.forall_mem_cons]
    unfold Loader.Offers
    rw [hsame]
    exact ⟨⟨folder, package, package?_eq_of_read hread, rfl⟩, h.offered⟩

theorem Entered.congr {keys : List String} (h : Entered loader keys)
    (hsame : after.package? = loader.package?) :
    Entered after keys := by
  refine ⟨h.nodup, ?_⟩
  unfold Loader.Offers
  rw [hsame]
  exact h.offered

/-- Keys that have been entered stay entered. -/
theorem Crawl.entered_keys {useDevelopment : Bool} {development imports : List Import}
    {found result : Found} {outcome : Except Error Found}
    (h : Crawl useDevelopment development folder imports found loader outcome final)
    (hresult : outcome = .ok result) (hentered : Entered loader found.keys) :
    Entered final result.keys ∧ found.keys.length ≤ result.keys.length := by
  induction h generalizing result with
  | done =>
    cases hresult
    exact ⟨hentered, le_rfl⟩
  | noPath => cases hresult
  | unreadable => cases hresult
  | failed => cases hresult
  | known _ hread _ _ ih => exact ih hresult (hentered.congr (package?_of_read hread))
  | entered _ hread hnew _ _ ihinner ihrest =>
    obtain ⟨hinner, hgrows⟩ := ihinner rfl (hentered.cons hread hnew)
    obtain ⟨hfinal, hgrows'⟩ := ihrest hresult hinner
    rw [List.length_cons] at hgrows
    exact ⟨hfinal, (Nat.le_of_succ_le hgrows).trans hgrows'⟩

theorem ofText_eq_ok {file text : String} (h : ofText file text = .ok package) :
    ofText "" text = .ok package := by
  obtain ⟨parsed, hparsed, h⟩ := bind_eq_ok_iff.mp h
  exact bind_eq_ok_iff.mpr ⟨parsed, mapError_eq_ok_iff.mpr (mapError_eq_ok_iff.mp hparsed),
    mapError_eq_ok_iff.mpr (mapError_eq_ok_iff.mp h)⟩

/-- The key of the package that a text describes. -/
def keyOfText? (text : String) : Option String :=
  (ofText "" text).toOption.map fun package ↦ package.header.key

/-- All keys that reading can give: those of packages that were read before, of files, and of
folders, which read as empty files. -/
def Loader.keys (loader : Loader) : List String :=
  loader.cache.map (fun entry ↦ entry.2.header.key) ++
    loader.tree.files.filterMap (fun file ↦ keyOfText? file.2) ++
    loader.tree.folders.filterMap fun _ ↦ keyOfText? ""

theorem mem_of_lookup_eq_some {α : Type} {entries : List (String × α)} {name : String} {value : α}
    (h : entries.lookup name = some value) : (name, value) ∈ entries := by
  obtain ⟨first, rest, rfl, -⟩ := List.lookup_eq_some_iff.mp h
  simp

theorem mem_or_of_read {tree : FileTree} {file text : String} (h : tree.read file = .ok text) :
    (∃ path, (path, text) ∈ tree.files) ∨ text = "" ∧ ∃ path, path ∈ tree.folders := by
  unfold FileTree.read at h
  cases hlookup : tree.files.lookup (FileTree.normal file) with
  | some found =>
    simp only [hlookup] at h
    cases h
    exact Or.inl ⟨_, mem_of_lookup_eq_some hlookup⟩
  | none =>
    simp only [hlookup] at h
    split_ifs at h with hfolder
    cases h
    exact Or.inr ⟨rfl, _, List.contains_iff_mem.mp hfolder⟩

theorem Loader.Offers.mem_keys {key : String} (h : loader.Offers key) : key ∈ loader.keys := by
  obtain ⟨folder, package, hpackage, rfl⟩ := h
  unfold Loader.package? at hpackage
  rw [Loader.keys, List.mem_append, List.mem_append]
  cases hcache : loader.cache.lookup (Path.join [folder, loader.file]) with
  | some cached =>
    simp only [hcache, Option.some.injEq] at hpackage
    subst hpackage
    exact Or.inl (Or.inl (List.mem_map.mpr ⟨_, mem_of_lookup_eq_some hcache, rfl⟩))
  | none =>
    cases htree : loader.tree.read (Path.join [folder, loader.file]) with
    | error cause => simp [hcache, htree] at hpackage
    | ok text =>
      cases htext : ofText (Path.join [folder, loader.file]) text with
      | error error => simp [hcache, htree, htext, Except.toOption] at hpackage
      | ok document =>
        simp only [hcache, htree, htext, Except.toOption, Option.some.injEq] at hpackage
        subst hpackage
        have hkey : keyOfText? text = some document.header.key := by
          simp [keyOfText?, ofText_eq_ok htext, Except.toOption]
        rcases mem_or_of_read htree with ⟨path, hfile⟩ | ⟨rfl, path, hfolder⟩
        · exact Or.inl (Or.inr (List.mem_filterMap.mpr ⟨_, hfile, hkey⟩))
        · exact Or.inr (List.mem_filterMap.mpr ⟨_, hfolder, hkey⟩)

theorem Entered.length_le {keys : List String} (h : Entered loader keys) :
    keys.length ≤ loader.tree.files.length + loader.tree.folders.length + loader.cache.length := by
  have hsubset : keys ⊆ loader.keys := fun key hkey ↦ (h.offered key hkey).mem_keys
  have hlength := (h.nodup.subperm hsubset).length_le
  have hfiles := List.length_filterMap_le (fun file ↦ keyOfText? file.2) loader.tree.files
  have hfolders := List.length_filterMap_le (fun _ ↦ keyOfText? "") loader.tree.folders
  rw [Loader.keys, List.length_append, List.length_append, List.length_map] at hlength
  omega

section Bound

variable (useDevelopment : Bool) {fuel : Nat} {development rest : List Import} {self : Import}
  {found : Found}

theorem outcome_followAll_cons :
    (followAll useDevelopment development fuel folder (self :: rest) found).outcome loader =
      match (follow useDevelopment development fuel folder self found).outcome loader with
      | (.error error, after) => (.error error, after)
      | (.ok next, after) =>
        (followAll useDevelopment development fuel folder rest next).outcome after := by
  unfold Load.outcome
  rw [followAll, ExceptT.run_bind, StateT.run_bind]
  rcases (follow useDevelopment development fuel folder self found).run.run loader with
    ⟨_ | next, after⟩ <;> rfl

theorem outcome_follow_of_noPath (hpath : self.path.isEmpty) :
    (follow useDevelopment development (fuel + 1) folder self found).outcome loader =
      (.error (missingPath self.package development useDevelopment), loader) := by
  unfold Load.outcome
  rw [follow]
  simp only [hpath, if_true]
  rfl

theorem outcome_follow (hpath : self.path.isEmpty = false) :
    (follow useDevelopment development (fuel + 1) folder self found).outcome loader =
      match (read self.package (Path.join [folder, self.path])).outcome loader with
      | (.error error, after) => (.error error, after)
      | (.ok package, after) =>
        if package.header.key ∈ found.keys then (.ok found, after)
        else
          match (followAll useDevelopment package.developmentImports fuel
              (Path.join [folder, self.path]) (withPaths useDevelopment package).imports
              { found with keys := package.header.key :: found.keys }).outcome after with
          | (.error error, final) => (.error error, final)
          | (.ok inner, final) =>
            (.ok { inner with packages := inner.packages ++ [withPaths useDevelopment package] },
              final) := by
  unfold Load.outcome
  rw [follow]
  simp only [hpath, Bool.false_eq_true, if_false]
  rw [ExceptT.run_bind, StateT.run_bind]
  rcases (read self.package (Path.join [folder, self.path])).run.run loader with
    ⟨error | package, after⟩
  · rfl
  · change (if found.keys.contains package.header.key then pure found
        else _ : Load Found).run.run after = _
    by_cases hknown : package.header.key ∈ found.keys
    · rw [if_pos (List.contains_iff_mem.mpr hknown)]
      simp only [if_pos hknown]
      rfl
    · rw [if_neg fun hmem ↦ hknown (List.contains_iff_mem.mp hmem)]
      simp only [if_neg hknown]
      rw [ExceptT.run_bind, StateT.run_bind]
      change (StateT.run (followAll useDevelopment package.developmentImports fuel _
        (withPaths useDevelopment package).imports _).run after >>= _) = _
      rcases (followAll useDevelopment package.developmentImports fuel
        (Path.join [folder, self.path]) (withPaths useDevelopment package).imports
        { found with keys := package.header.key :: found.keys }).run.run after with
        ⟨error | inner, final⟩ <;> rfl

/-- Where the bound on the depth exceeds the number of keys that can still be entered, it plays no
part. -/
theorem crawl_followAll (fuel : Nat) (imports development : List Import) (folder : String)
    (found : Found) (loader : Loader) (hentered : Entered loader found.keys)
    (hbound : ∀ keys, Entered loader keys → keys.length < fuel + found.keys.length) :
    Crawl useDevelopment development folder imports found loader
      ((followAll useDevelopment development fuel folder imports found).outcome loader).1
      ((followAll useDevelopment development fuel folder imports found).outcome loader).2 := by
  induction fuel generalizing imports development folder found loader with
  | zero => exact absurd (hbound _ hentered) (by omega)
  | succ fuel ihfuel =>
    induction imports generalizing found loader with
    | nil =>
      rw [followAll]
      exact .done
    | cons self rest ihrest =>
      rw [outcome_followAll_cons]
      cases hpath : self.path.isEmpty with
      | true =>
        rw [outcome_follow_of_noPath useDevelopment hpath]
        exact .noPath hpath
      | false =>
        rw [outcome_follow useDevelopment hpath]
        rcases hread : (read self.package (Path.join [folder, self.path])).outcome loader with
          ⟨error | package, after⟩
        · exact .unreadable hpath hread
        · have hsame := package?_of_read hread
          by_cases hknown : package.header.key ∈ found.keys
          · simp only [if_pos hknown]
            refine .known hpath hread hknown
              (ihrest found after (hentered.congr hsame) fun keys hkeys ↦ ?_)
            exact hbound keys (hkeys.congr hsame.symm)
          · have hnext := hentered.cons hread hknown
            have hinner :=
              ihfuel (withPaths useDevelopment package).imports package.developmentImports
                (Path.join [folder, self.path])
                { found with keys := package.header.key :: found.keys } after hnext
              fun keys hkeys ↦ by
                have hlt := hbound keys (hkeys.congr hsame.symm)
                rw [List.length_cons]
                omega
            simp only [if_neg hknown]
            rcases houtcome : (followAll useDevelopment package.developmentImports fuel
              (Path.join [folder, self.path]) (withPaths useDevelopment package).imports
              { found with keys := package.header.key :: found.keys }).outcome after with ⟨error |
              inner, between⟩
            · rw [houtcome] at hinner
              exact .failed hpath hread hknown hinner
            · rw [houtcome] at hinner
              obtain ⟨hentered', hgrows⟩ := hinner.entered_keys rfl hnext
              refine .entered hpath hread hknown hinner
                (ihrest _ between hentered' fun keys hkeys ↦ ?_)
              have hlt := hbound keys (hkeys.congr (hinner.package?_eq.trans hsame).symm)
              rw [List.length_cons] at hgrows
              dsimp only at hgrows ⊢
              omega

end Bound

/-! ### Packages in their folders -/

/-- A package in the folder where it was found. -/
structure Placement where
  folder : String
  package : Package

/-- An import that stands in a folder leads to the package: a package of the same key is found at
its path. -/
def Loader.Leads (loader : Loader) (folder : String) (self : Import) (package : Package) : Prop :=
  ∃ document, loader.package? (Path.join [folder, self.path]) = some document ∧
    document.header.key = package.header.key

/-- The package is what its folder holds, with the paths that its imports are followed by. -/
def Loader.Holds (loader : Loader) (useDevelopment : Bool) (place : Placement) : Prop :=
  ∃ document, loader.package? place.folder = some document ∧
    place.package = withPaths useDevelopment document

/-- The folders that imports lead to from a folder, directly or through the packages that are
found. -/
inductive Loader.Reaches (loader : Loader) (useDevelopment : Bool) (folder : String)
    (roots : List Import) :
    String → Prop
  | root {self : Import} (hself : self ∈ roots) :
      Reaches loader useDevelopment folder roots (Path.join [folder, self.path])
  | step {place : Placement} {self : Import}
      (hplace : Reaches loader useDevelopment folder roots place.folder)
      (hholds : loader.Holds useDevelopment place) (hself : self ∈ place.package.imports) :
      Reaches loader useDevelopment folder roots (Path.join [place.folder, self.path])

/-- One of the imports of the first package leads to the second. -/
def Loader.Imports (loader : Loader) (importer imported : Placement) : Prop :=
  ∃ self ∈ importer.package.imports, loader.Leads importer.folder self imported.package

/-- The graph of imports among packages in their folders. -/
def Loader.ImportsAmong (loader : Loader) (places : List Placement)
    (importer imported : Placement) : Prop :=
  importer ∈ places ∧ imported ∈ places ∧ loader.Imports importer imported

/-- An import in the folder of the document that has it. -/
structure Site where
  folder : String
  self : Import

/-- The folder that the import leads to. -/
def Site.target (site : Site) : String := Path.join [site.folder, site.self.path]

/-- The imports that are followed: those of the root and those of packages in their folders. -/
def sites (root : String) (roots : List Import) (places : List Placement) : List Site :=
  roots.map (Site.mk root) ++ places.flatMap fun place ↦
    place.package.imports.map (Site.mk place.folder)

variable {useDevelopment : Bool} {root : String} {roots : List Import}
  {places more stack : List Placement} {place : Placement} {found : Found}

theorem mem_sites_of_mem {self : Import} (hplace : place ∈ places)
    (hself : self ∈ place.package.imports) :
    ⟨place.folder, self⟩ ∈ sites root roots places :=
  List.mem_append_right _ (List.mem_flatMap.mpr ⟨place, hplace, List.mem_map_of_mem hself⟩)

theorem sites_mono (hsubset : places ⊆ more) : sites root roots places ⊆ sites root roots more := by
  intro site hsite
  rcases List.mem_append.mp hsite with hroot | hplaced
  · exact List.mem_append_left _ hroot
  · obtain ⟨place, hplace, hself⟩ := List.mem_flatMap.mp hplaced
    exact List.mem_append_right _ (List.mem_flatMap.mpr ⟨place, hsubset hplace, hself⟩)

theorem importsAmong_mono (hsubset : places ⊆ more) {first last : Placement}
    (h : ReflTransGen (loader.ImportsAmong places) first last) :
    ReflTransGen (loader.ImportsAmong more) first last :=
  ReflTransGen.mono (fun _ _ ⟨himporter, himported, himports⟩ ↦
    ⟨hsubset himporter, hsubset himported, himports⟩) _ _ h

/-- What holds while imports are followed: `places` holds the packages that have been returned,
`stack` those that have been entered and whose imports are being followed, innermost first.
An import of a package that has been returned leads to a package before it, or around a circle. -/
structure Crawling (loader : Loader) (useDevelopment : Bool) (root : String) (roots : List Import)
    (places stack : List Placement) (found : Found) : Prop where
  packages : found.packages = places.map Placement.package
  keys : found.keys.Perm ((places ++ stack).map fun place ↦ place.package.header.key)
  nodup : found.keys.Nodup
  holds : ∀ place ∈ places ++ stack, loader.Holds useDevelopment place
  reached : ∀ place ∈ places ++ stack, loader.Reaches useDevelopment root roots place.folder
  sited : ∀ place ∈ places ++ stack, ∃ site ∈ sites root roots (places ++ stack),
    site.target = place.folder
  chain : stack.IsChain fun inner outer ↦ loader.Imports outer inner
  closed : ∀ before place after, places = before ++ place :: after → ∀ self ∈ place.package.imports,
    ∃ target ∈ places ++ stack, loader.Leads place.folder self target.package ∧
      (target ∈ before ∨ ReflTransGen (loader.ImportsAmong (places ++ stack)) target place)

namespace Crawling

theorem start (loader : Loader) (useDevelopment : Bool) (root : String) (roots : List Import) :
    Crawling loader useDevelopment root roots [] [] {} where
  packages := rfl
  keys := .nil
  nodup := List.nodup_nil
  holds := by simp
  reached := by simp
  sited := by simp
  chain := .nil
  closed := by simp

theorem forall_mem_middle {p : Placement → Prop} :
    (∀ other ∈ places ++ place :: stack, p other) ↔
      p place ∧ ∀ other ∈ places ++ stack, p other := by
  simp only [List.perm_middle.mem_iff, List.forall_mem_cons]

/-- A package is entered whose key is new. -/
theorem enter (h : Crawling loader useDevelopment root roots places stack found)
    (hnew : place.package.header.key ∉ found.keys) (hholds : loader.Holds useDevelopment place)
    (hreached : loader.Reaches useDevelopment root roots place.folder)
    (hsited : ∃ site ∈ sites root roots stack, site.target = place.folder)
    (himported : ∀ outer ∈ stack.head?, loader.Imports outer place) :
    Crawling loader useDevelopment root roots places (place :: stack)
      { found with keys := place.package.header.key :: found.keys } where
  packages := h.packages
  keys := by
    rw [List.map_append, List.map_cons]
    refine (h.keys.cons _).trans ?_
    rw [List.map_append]
    exact List.perm_middle.symm
  nodup := List.nodup_cons.mpr ⟨hnew, h.nodup⟩
  holds := forall_mem_middle.mpr ⟨hholds, h.holds⟩
  reached := forall_mem_middle.mpr ⟨hreached, h.reached⟩
  sited := by
    refine forall_mem_middle.mpr ⟨?_, fun other hother ↦ ?_⟩
    · obtain ⟨site, hsite, htarget⟩ := hsited
      refine ⟨site, sites_mono ?_ hsite, htarget⟩
      exact fun _ hmem ↦ List.mem_append_right _ (List.mem_cons_of_mem _ hmem)
    · obtain ⟨site, hsite, htarget⟩ := h.sited other hother
      exact ⟨site,
        sites_mono ((List.sublist_cons_self place stack).append_left places).subset hsite, htarget⟩
  chain := List.isChain_cons.mpr ⟨himported, h.chain⟩
  closed := by
    have hsubset : places ++ stack ⊆ places ++ place :: stack :=
      (List.sublist_cons_self place stack).append_left places |>.subset
    intro before other after heq self hself
    obtain ⟨target, htarget, hleads, horder⟩ := h.closed before other after heq self hself
    exact ⟨target, hsubset htarget, hleads, horder.imp id (importsAmong_mono hsubset)⟩

/-- A package that is still being followed leads to the innermost one. -/
theorem reflTransGen_of_mem
    (hchain : (place :: stack).IsChain fun inner outer ↦ loader.Imports outer inner)
    (hsubset : place :: stack ⊆ places) {target : Placement} (htarget : target ∈ place :: stack) :
    ReflTransGen (loader.ImportsAmong places) target place := by
  induction stack generalizing place with
  | nil => rw [List.mem_singleton.mp htarget]
  | cons outer stack ih =>
    rw [List.isChain_cons_cons] at hchain
    rcases List.mem_cons.mp htarget with rfl | htarget
    · exact .refl
    · have houter : outer :: stack ⊆ places :=
        fun other hother ↦ hsubset (List.mem_cons_of_mem _ hother)
      exact (ih hchain.2 houter htarget).tail
        ⟨houter List.mem_cons_self, hsubset List.mem_cons_self, hchain.1⟩

/-- The innermost package is returned once its imports have been followed. -/
theorem leave (h : Crawling loader useDevelopment root roots places (place :: stack) found)
    (hfollowed : ∀ self ∈ place.package.imports, ∃ target ∈ places ++ place :: stack,
      loader.Leads place.folder self target.package) :
    Crawling loader useDevelopment root roots (places ++ [place]) stack
      { found with packages := found.packages ++ [place.package] } := by
  have hsame : places ++ [place] ++ stack = places ++ place :: stack := by simp
  refine ⟨?_, ?_, h.nodup, ?_, ?_, ?_, (List.isChain_cons.mp h.chain).2, ?_⟩
  · rw [List.map_append, h.packages, List.map_singleton]
  · rw [hsame]
    exact h.keys
  · rw [hsame]
    exact h.holds
  · rw [hsame]
    exact h.reached
  · rw [hsame]
    exact h.sited
  · rw [hsame]
    intro before other after heq self hself
    rcases List.eq_nil_or_concat after with rfl | ⟨rest, last, rfl⟩
    · -- the package itself: what it leads to has been returned or is being followed
      obtain ⟨rfl, hother⟩ := List.append_inj' heq rfl
      cases hother
      obtain ⟨target, htarget, hleads⟩ := hfollowed self hself
      refine ⟨target, htarget, hleads, ?_⟩
      rcases List.mem_append.mp htarget with hreturned | hstack
      · exact Or.inl hreturned
      · exact Or.inr (reflTransGen_of_mem h.chain (List.subset_append_right _ _) hstack)
    · have hplaces : places = before ++ other :: rest := by
        rw [List.concat_eq_append, ← List.cons_append, ← List.append_assoc] at heq
        exact (List.append_inj' heq rfl).1
      exact h.closed before other rest hplaces self hself

end Crawling

/-- Imports that stand in a folder, where they are followed from the innermost package or from the
root. -/
structure Follows (loader : Loader) (useDevelopment : Bool) (root : String) (roots : List Import)
    (stack : List Placement) (folder : String) (imports : List Import) : Prop where
  reaches : ∀ self ∈ imports,
    loader.Reaches useDevelopment root roots (Path.join [folder, self.path])
  sited : ∀ self ∈ imports, ⟨folder, self⟩ ∈ sites root roots stack
  listed : ∀ outer ∈ stack.head?, outer.folder = folder ∧ imports ⊆ outer.package.imports

theorem Follows.tail {self : Import} {rest : List Import}
    (h : Follows loader useDevelopment root roots stack folder (self :: rest)) :
    Follows loader useDevelopment root roots stack folder rest where
  reaches := (List.forall_mem_cons.mp h.reaches).2
  sited := (List.forall_mem_cons.mp h.sited).2
  listed :=
    fun outer houter ↦
      ⟨(h.listed outer houter).1, (List.cons_subset.mp (h.listed outer houter).2).2⟩

/-- Following imports returns packages that are closed under imports, and leaves those that are
being followed. -/
theorem Crawl.crawling {origin : Loader} {development imports : List Import} {result : Found}
    {outcome : Except Error Found}
    (h : Crawl useDevelopment development folder imports found loader outcome final)
    (hresult : outcome = .ok result) (hsame : loader.package? = origin.package?)
    (hcrawling : Crawling origin useDevelopment root roots places stack found)
    (hfollows : Follows origin useDevelopment root roots stack folder imports) :
    ∃ more, Crawling origin useDevelopment root roots (places ++ more) stack result ∧
      ∀ self ∈ imports, ∃ target ∈ places ++ more ++ stack,
        origin.Leads folder self target.package := by
  induction h generalizing result places stack with
  | done =>
    cases hresult
    refine ⟨[], ?_, by simp⟩
    rwa [List.append_nil]
  | noPath => cases hresult
  | unreadable => cases hresult
  | failed => cases hresult
  | @known _ rest folder self _ _ _ _ document _ _ hread hknown _ ih =>
    -- A key that has been entered is that of a package.
    obtain ⟨target, htarget, hkey⟩ := List.mem_map.mp (hcrawling.keys.mem_iff.mp hknown)
    have hleads : origin.Leads folder self target.package :=
      ⟨document, hsame ▸ package?_eq_of_read hread, hkey.symm⟩
    obtain ⟨more, hcrawling', hrest⟩ :=
      ih hresult ((package?_of_read hread).trans hsame) hcrawling hfollows.tail
    refine ⟨more, hcrawling', List.forall_mem_cons.mpr ⟨⟨target, ?_, hleads⟩, hrest⟩⟩
    exact ((List.sublist_append_left places more).append_right stack).subset htarget
  | @entered _ rest folder self _ _ _ _ _ _ document _ _ hread hnew hinner _ ihinner ihrest =>
    have hdocument : origin.package? (Path.join [folder, self.path]) = some document :=
      hsame ▸ package?_eq_of_read hread
    have hafter := (package?_of_read hread).trans hsame
    -- the package that is entered, in its folder
    let place : Placement := ⟨Path.join [folder, self.path], withPaths useDevelopment document⟩
    have hholds : origin.Holds useDevelopment place := ⟨document, hdocument, rfl⟩
    have hreached := hfollows.reaches self List.mem_cons_self
    have hleads : origin.Leads folder self place.package := ⟨document, hdocument, rfl⟩
    have himported : ∀ outer ∈ stack.head?, origin.Imports outer place := by
      intro outer houter
      obtain ⟨rfl, hlisted⟩ := hfollows.listed outer houter
      exact ⟨self, hlisted List.mem_cons_self, hleads⟩
    have hentered := @Crawling.enter _ _ _ _ _ _ place _ hcrawling hnew hholds hreached
      ⟨_, hfollows.sited self List.mem_cons_self, rfl⟩ himported
    obtain ⟨inside, hinside, hfollowed⟩ := ihinner rfl hafter hentered
      ⟨fun other hother ↦ .step hreached hholds hother,
        fun other hother ↦ @mem_sites_of_mem root roots _ place other List.mem_cons_self hother,
        by simp [place]⟩
    obtain ⟨more, hmore, hrest⟩ := ihrest hresult (hinner.package?_eq.trans hafter)
      (hinside.leave hfollowed) hfollows.tail
    refine ⟨inside ++ [place] ++ more, ?_, List.forall_mem_cons.mpr ⟨⟨place, by simp, hleads⟩, ?_⟩⟩
    · simpa using hmore
    · simpa using hrest

/-! ### Packages that are returned -/

/-- No package is among those that its imports lead to. -/
def Loader.Acyclic (loader : Loader) (places : List Placement) : Prop :=
  ∀ place ∈ places, ¬ TransGen (loader.ImportsAmong places) place place

/-- Imports name the packages that they lead to. -/
def Loader.Named (loader : Loader) (places : List Placement) : Prop :=
  ∀ importer ∈ places, ∀ imported ∈ places, ∀ self ∈ importer.package.imports,
    loader.Leads importer.folder self imported.package → imported.package.header.key =
    self.package.key

/-- What is returned for imports: packages of different keys, each in a folder that the imports
reach, and with a package all that its imports lead to. Without a circle, a package stands behind
what it imports, whether an import is taken by the path that it leads along or, if it names what it
leads to, by the name. -/
structure Complete (loader : Loader) (useDevelopment : Bool) (root : String) (roots : List Import)
    (places : List Placement) : Prop where
  nodup : (places.map fun place ↦ place.package.header.key).Nodup
  holds : ∀ place ∈ places, loader.Holds useDevelopment place
  reached : ∀ place ∈ places, loader.Reaches useDevelopment root roots place.folder
  roots : ∀ self ∈ roots, ∃ target ∈ places, loader.Leads root self target.package
  imports : ∀ place ∈ places, ∀ self ∈ place.package.imports,
    ∃ target ∈ places, loader.Leads place.folder self target.package
  ordered : loader.Acyclic places → ∀ before place after, places = before ++ place :: after →
    ∀ target ∈ places, loader.Imports place target → target ∈ before
  ordered_by_key : loader.Named places →
    (∀ package ∈ places.map Placement.package,
      ¬ TransGen (Imports (places.map Placement.package)) package package) →
    ∀ before package after, places.map Placement.package = before ++ package :: after →
      ∀ imported, Imports (places.map Placement.package) package imported → imported ∈ before

section Returned

variable (hnodup : (places.map fun place ↦ place.package.header.key).Nodup)

include hnodup

/-- An import leads to one of the packages at most. -/
theorem eq_of_leads {self : Import} {first second : Placement} (hfirst : first ∈ places)
    (hsecond : second ∈ places) (hleads : loader.Leads folder self first.package)
    (hleads' : loader.Leads folder self second.package) : first = second := by
  obtain ⟨document, hdocument, hkey⟩ := hleads
  obtain ⟨document', hdocument', hkey'⟩ := hleads'
  rw [hdocument, Option.some.injEq] at hdocument'
  subst hdocument'
  exact List.inj_on_of_nodup_map hnodup hfirst hsecond (hkey.symm.trans hkey')

theorem byKey?_placed {key : String} : byKey? key (places.map Placement.package) = some package ↔
    ∃ place ∈ places, place.package = package ∧ package.header.key = key := by
  have hkeys : ((places.map Placement.package).map fun package ↦ package.header.key).Nodup := by
    rwa [List.map_map]
  rw [byKey?, Text.find?_key_eq_some_iff hkeys, List.mem_map]
  constructor
  · rintro ⟨⟨place, hplace, hpackage⟩, hkey⟩
    exact ⟨place, hplace, hpackage, hkey⟩
  · rintro ⟨place, hplace, hpackage, hkey⟩
    exact ⟨⟨place, hplace, hpackage⟩, hkey⟩

/-- A circle along paths is a circle of names. -/
theorem acyclic_of_named (hnamed : loader.Named places)
    (h : ∀ package ∈ places.map Placement.package,
      ¬ TransGen (Imports (places.map Placement.package)) package package) :
    loader.Acyclic places := by
  intro place hplace hcircle
  refine h place.package (List.mem_map_of_mem hplace)
    (TransGen.lift Placement.package ?_ _ _ hcircle)
  rintro importer imported ⟨himporter, himported, self, hself, hleads⟩
  have hkey := hnamed importer himporter imported himported self hself hleads
  exact ⟨self, hself, (byKey?_placed hnodup).mpr ⟨imported, himported, rfl, hkey⟩⟩

end Returned

theorem Crawling.complete (h : Crawling loader useDevelopment root roots places [] found)
    (hroots : ∀ self ∈ roots, ∃ target ∈ places, loader.Leads root self target.package) :
    Complete loader useDevelopment root roots places := by
  obtain ⟨-, hkeys, hnodup, hholds, hreached, -, -, hclosed⟩ := h
  rw [List.append_nil] at hkeys hholds hreached hclosed
  rw [hkeys.nodup_iff] at hnodup
  have himports : ∀ place ∈ places, ∀ self ∈ place.package.imports,
      ∃ target ∈ places, loader.Leads place.folder self target.package := by
    intro place hplace self hself
    obtain ⟨before, after, heq⟩ := List.append_of_mem hplace
    obtain ⟨target, htarget, hleads, -⟩ := hclosed before place after heq self hself
    exact ⟨target, htarget, hleads⟩
  have hordered : loader.Acyclic places → ∀ before place after, places = before ++ place :: after →
      ∀ target ∈ places, loader.Imports place target → target ∈ before := by
    rintro hacyclic before place after heq target htarget ⟨self, hself, hleads⟩
    obtain ⟨other, hother, hleads', horder⟩ := hclosed before place after heq self hself
    obtain rfl := eq_of_leads hnodup hother htarget hleads' hleads
    rcases horder with hbefore | hcircle
    · exact hbefore
    · have hplace : place ∈ places := by simp [heq]
      exact absurd (TransGen.head' ⟨hplace, htarget, self, hself, hleads⟩ hcircle)
        (hacyclic place hplace)
  refine ⟨hnodup, hholds, hreached, hroots, himports, hordered, ?_⟩
  rintro hnamed hacyclic before package after heq imported ⟨self, hself, hfound⟩
  obtain ⟨first, rest, rfl, rfl, hrest⟩ := List.map_eq_append_iff.mp heq
  obtain ⟨place, last, rfl, rfl, -⟩ := List.map_eq_cons_iff.mp hrest
  have hplace : place ∈ first ++ place :: last := by simp
  obtain ⟨target, htarget, hleads⟩ := himports place hplace self hself
  obtain ⟨other, hother, rfl, hkey⟩ := (byKey?_placed hnodup).mp hfound
  have hsame := (hnamed place hplace target htarget self hself hleads).trans hkey.symm
  obtain rfl := List.inj_on_of_nodup_map hnodup htarget hother hsame
  exact List.mem_map_of_mem
    (hordered (acyclic_of_named hnodup hnamed hacyclic) first place last rfl target htarget
    ⟨self, hself, hleads⟩)

theorem outcome_fetch {imports development : List Import} {outcome : Except Error Found}
    (h : (followAll useDevelopment development
      (loader.tree.files.length + loader.tree.folders.length + loader.cache.length + 1) folder
      (Import.effective imports development useDevelopment) {}).outcome loader = (outcome, final)) :
    (fetch folder imports development useDevelopment).outcome loader =
      (outcome.map fun found ↦ (found.packages,
        Import.effective imports development useDevelopment), final) := by
  unfold Load.outcome at h ⊢
  change (followAll useDevelopment development _ folder _ {} >>= _).run.run loader = _
  rw [ExceptT.run_bind, StateT.run_bind, h]
  cases outcome <;> rfl

/-- What is returned is what following imports without a bound ends with. -/
theorem crawl_fetch (loader : Loader) (folder : String) (imports development : List Import)
    (useDevelopment : Bool) :
    ∃ outcome final,
      Crawl useDevelopment development folder (Import.effective imports development useDevelopment)
        {} loader outcome final ∧
      (fetch folder imports development useDevelopment).outcome loader =
        (outcome.map fun found ↦ (found.packages,
          Import.effective imports development useDevelopment), final) := by
  refine ⟨_, _, crawl_followAll useDevelopment
    (loader.tree.files.length + loader.tree.folders.length + loader.cache.length + 1) _ _ _ _ _
    ⟨List.nodup_nil, by simp⟩ fun keys hkeys ↦ ?_, outcome_fetch rfl⟩
  simpa using Nat.lt_succ_of_le hkeys.length_le

/-- The packages that are returned are complete, and one of the imports that were followed leads to
each folder. -/
theorem Crawl.complete {development : List Import}
    (h : Crawl useDevelopment development root roots {} loader (.ok found) final) :
    ∃ places, found.packages = places.map Placement.package ∧
      Complete loader useDevelopment root roots places ∧
      ∀ place ∈ places, ∃ site ∈ sites root roots places, site.target = place.folder := by
  obtain ⟨places, hcrawling, hroots⟩ :=
    h.crawling rfl rfl (Crawling.start loader useDevelopment root roots) ⟨fun self hself ↦
        .root hself, fun self hself ↦ List.mem_append_left _ (List.mem_map_of_mem hself), by simp⟩
  rw [List.nil_append] at hcrawling hroots
  rw [List.append_nil] at hroots
  have hsited := hcrawling.sited
  rw [List.append_nil] at hsited
  exact ⟨places, hcrawling.packages, hcrawling.complete hroots, hsited⟩

end FlowSpec.Package
