import FlowSpec.Document.Parse
import FlowSpec.FileTree
import FlowSpec.Lowering.Definition
import FlowSpec.Package.Error

/-!
Loading of package documents. Imports are followed from folder to folder; every package is read once
and comes behind those that it imports.
-/

set_option autoImplicit false

namespace FlowSpec.Package

def defaultFile : String := "sdf-package.yaml"

/-- Where packages are read from, and those that were read before. -/
structure Loader where
  tree : FileTree
  file : String := defaultFile
  cache : List (String × Package) := []
deriving Inhabited

/-- Loading remembers what it reads, also when it fails. -/
abbrev Load := ExceptT Error (StateM Loader)

/-- The package of a document's text. -/
def ofText (file text : String) : Except Error Package := do
  let parsed ← (Document.parsePackage text).mapError (Error.document file)
  (Lowering.package parsed.document).mapError (Error.lowering file)

/-- Reads the package document of a folder. -/
def read (header : Header) (folder : String) : Load Package := do
  let loader ← get
  let file := Path.join [folder, loader.file]
  match loader.cache.lookup file with
  | some package => return package
  | none =>
    match loader.tree.read file with
    | .error _ => throw (.noFile header file)
    | .ok text =>
      let package ← ofText file text
      modify fun loader => { loader with cache := (file, package) :: loader.cache }
      return package

def missingPath (header : Header) (development : List Import) (useDevelopment : Bool) : Error :=
  let hasOverride := development.any fun other => other.package = header && other.path ≠ ""
  .noPath header (if hasOverride then .overrideUnused
    else if useDevelopment then .overrideMissing
    else .overridePossible)

/-- The packages found so far, and the keys of those that have been entered. -/
structure Found where
  packages : List Package := []
  keys : List String := []
deriving Inhabited

mutual

/-- Follows imports. Every level enters a package that was not entered before, so their number
bounds `fuel`. -/
def followAll (useDevelopment : Bool) (development : List Import) :
    Nat → String → List Import → Found → Load Found
  | _, _, [], found => return found
  | fuel, folder, self :: rest, found => do
    let found ← follow useDevelopment development fuel folder self found
    followAll useDevelopment development fuel folder rest found
termination_by fuel _ imports => (fuel, imports.length + 1)

/-- Enters the package of one import, unless it has been entered before. -/
def follow (useDevelopment : Bool) (development : List Import) :
    Nat → String → Import → Found → Load Found
  | 0, _, _, found => return found
  | fuel + 1, folder, self, found => do
    if self.path.isEmpty then throw (missingPath self.package development useDevelopment)
    let folder := Path.join [folder, self.path]
    let package ← read self.package folder
    let key := package.header.key
    if found.keys.contains key then return found
    let imports := Import.effective package.imports package.developmentImports useDevelopment
    let package := { package with imports }
    let found ← followAll useDevelopment package.developmentImports fuel folder imports
      { found with keys := key :: found.keys }
    return { found with packages := found.packages ++ [package] }
termination_by fuel => (fuel, 0)

end

/-- Follows imports from a folder, and gives the imports with the paths that were used. -/
def fetch (folder : String) (imports development : List Import) (useDevelopment : Bool) :
    Load (List Package × List Import) := do
  let loader ← get
  let imports := Import.effective imports development useDevelopment
  let bound := loader.tree.files.length + loader.tree.folders.length + loader.cache.length + 1
  let found ← followAll useDevelopment development bound folder imports {}
  return (found.packages, imports)

end FlowSpec.Package
