import FlowSpec.Document.Error
import FlowSpec.Lowering.Error
import FlowSpec.State.Resolution

/-! Why imports cannot be resolved. -/

set_option autoImplicit false

namespace FlowSpec.Package

/-- What is advised where an import has no path. -/
inductive PathHint where
  | overrideUnused
  | overrideMissing
  | overridePossible
deriving Repr, DecidableEq, Inhabited

def PathHint.text : PathHint → String
  | overrideUnused =>
    "An override path for this package was specified in the development config. " ++
      "please pass `--dev` to use the local override of the package."
  | overrideMissing =>
    "SDF is running in Dev mode. " ++
      "Did you mean to import the package from the local filesystem? " ++
      "If so, please specify a path in the development config"
  | overridePossible =>
    "If you would like to import the package from the local filesystem, " ++
      "please specify a path in the development config and pass the `--dev` flag"

inductive Error where
  | missing (key suggestion : String)
  | cycle (key : String) (path : List String)
  | noFile (package : Header) (file : String)
  | noPath (package : Header) (hint : PathHint)
  | document (file : String) (error : Document.Error)
  | lowering (file : String) (error : Lowering.Error)
  | typeConflict (type package : String)
  | unknownState (state package : String)
  | stateConflict (state : String)
  | merging (package : Header) (cause : Error)
  | scope (package : Header) (cause : InvalidStateValue)
  | stateValue (cause : InvalidStateValue)
  | resolution (error : State.PackageError)
  | injection (error : State.ResolutionError)
  | pathRequired
  | unknownFunction (uses : String)
  | inService (service : String) (cause : Error)
  | operator (uses : String) (expected found : Operator)
deriving Repr, Inhabited

def Error.message : Error → String
  | missing key suggestion =>
    "Could not find package with key: " ++ key
      ++ if suggestion.isEmpty then "" else "; did you mean `" ++ suggestion ++ "`?"
  | cycle _ path => "circular dependency: " ++ Text.join " -> " path
  | noFile package file =>
    "failed to load package config: expected to find package: " ++ package.text ++ " at " ++ file
  | noPath package hint => "Package " ++ package.text ++ " not found on Hub. " ++ hint.text
  | document file error => file ++ ": " ++ error.message
  | lowering file error => file ++ ": " ++ error.message
  | typeConflict type package =>
    "imported type " ++ type ++ " from " ++ package ++ " conflicts with existing type"
  | unknownState state package => "state " ++ state ++ " not found in imported package " ++ package
  | stateConflict state => "imported state " ++ state ++ " conflicts with existing state"
  | merging package cause => "package " ++ package.text ++ ": " ++ cause.message
  | scope package cause => "package " ++ package.text ++ ": " ++ cause.message
  | stateValue cause => cause.message
  | resolution error => error.message
  | injection error => error.message
  | pathRequired => "Import must have path when resolving functions"
  | unknownFunction uses => "Function " ++ uses ++ " not found in imports"
  | inService service cause => "service `" ++ service ++ "`: " ++ cause.message
  | operator uses expected found =>
    "Imported function " ++ uses ++ " is expected to be " ++ expected.name ++
      " type operator but is " ++ found.name

end FlowSpec.Package
