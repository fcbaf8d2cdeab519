import FlowSpec.Package.Resolution

/-! The import graph drawn as a tree: a line for every import, below the line of what imports it. -/

set_option autoImplicit false

namespace FlowSpec.Package

/-- A label with branches below it. -/
inductive Branch where
  | node (label : String) (branches : List Branch)
deriving Repr, Inhabited

namespace Branch

/-- The lines of a label; those behind the first stand below it. -/
def label (margin edge next : String) (text : String) : String :=
  match Text.split "\n" text with
  | [] => margin ++ edge ++ " \n"
  | first :: rest =>
    margin ++ edge ++ " " ++ first ++ "\n"
      ++ String.join (rest.map fun line => margin ++ next ++ line ++ "\n")

mutual

/-- Draws a branch; `isLast` tells that no other follows it on its level. -/
def render (margin : String) (isLast : Bool) : Branch → String
  | node text branches =>
    let edge := if isLast then "└──" else "├──"
    let next := if isLast then "    " else "│   "
    label margin edge next text ++ renderAll (margin ++ next) branches

def renderAll (margin : String) : List Branch → String
  | [] => ""
  | branch :: rest => render margin rest.isEmpty branch ++ renderAll margin rest

end

end Branch

namespace Resolution

/-- The branch of a package. Imports go no deeper than there are packages. -/
def branch (resolved : List Package) : Nat → Package → Branch
  | 0, package => .node package.header.text []
  | fuel + 1, package =>
    .node package.header.text ((children resolved package).map (branch resolved fuel))

/-- The tree of all imports below a root. -/
def tree (resolution : Resolution) (root : String) : String :=
  let roots := resolution.imports.filterMap fun self => byKey? self.package.key resolution.resolved
  root ++ "\n" ++
    Branch.renderAll "" (roots.map (branch resolution.resolved resolution.resolved.length))

end Resolution

end FlowSpec.Package
