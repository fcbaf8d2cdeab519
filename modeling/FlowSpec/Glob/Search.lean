import FlowSpec.FileTree
import FlowSpec.Glob.Pattern

/-!
The files whose paths match a pattern. A pattern is searched from its end: the folders in front of
its last part are found first, then the names in each of them, in order. The results of a choice are
put in order, each once.
-/

set_option autoImplicit false

namespace FlowSpec.Glob

/-- A folder of a tree that paths are taken from. -/
structure View where
  tree : FileTree
  base : String
deriving Repr, Inhabited

namespace View

/-- The path in the tree, unless it leads out of the folder. -/
def real? (view : View) (path : String) : Option String :=
  if view.base == "." then some path
  else
    let base := Path.clean view.base
    let full := Path.join [base, path]
    if base.isPrefixOf full then some full else none

def has (view : View) (path : String) : Bool := ((view.real? path).map view.tree.has).getD false

def isFolder (view : View) (path : String) : Bool :=
  ((view.real? path).map view.tree.isFolder).getD false

def entries (view : View) (path : String) : List (String × Bool) :=
  ((view.real? path).map view.tree.entries).getD []

/-- All files below a folder, or the folder and all folders below it. Every level enters another
folder, so their number bounds `fuel`. -/
def below (view : View) (wantsFiles : Bool) : Nat → String → List String
  | 0, _ => []
  | fuel + 1, folder =>
    (if wantsFiles then [] else [folder])
      ++ (view.entries folder).flatMap fun (name, isFolder) =>
        let path := Path.join [folder, name]
        if isFolder then view.below wantsFiles fuel path
        else if wantsFiles then [path] else []

/-- What matches in a folder: files if the pattern is the last part, and folders otherwise. -/
def inFolder (view : View) (isLast : Bool) (pattern : List Char) (folder : String) : List String :=
  match pattern with
  | [] => if !isLast && view.isFolder folder then [folder] else []
  | ['*', '*'] =>
    if view.isFolder folder then view.below isLast (view.tree.folders.length + 1) folder else []
  | _ => ((view.entries folder).filter fun (name, isFolder) =>
      matchesName pattern name && isFolder != isLast).map fun (name, _) => Path.join [folder, name]

end View

/-- Puts a path into a list in order, unless it is there. -/
def insertPath (path : String) : List String → List String
  | [] => [path]
  | other :: rest =>
    if path < other then path :: other :: rest
    else if path == other then other :: rest
    else other :: insertPath path rest

def insertPaths (found : List String) (paths : List String) : List String :=
  paths.foldl (fun found path => insertPath path found) found

/-- A pattern continued behind a folder. -/
def behindFolder (folder : String) (pattern : List Char) : List Char :=
  if folder.isEmpty then pattern else folder.toList ++ '/' :: pattern

/-- The paths that match a pattern. Every level cuts off a part or a choice, so `fuel` need not
exceed the pattern's length. Choices are put in order folder by folder, or across folders if
`merges`. -/
def search (view : View) (merges : Bool) : Nat → Bool → List Char → List String
  | 0, _, _ => []
  | fuel + 1, isLast, pattern =>
    if !hasMeta pattern then
      let path := String.ofList (unescape pattern)
      if view.has path && !(isLast && view.isFolder path) then [path] else []
    else
      match lastCut? (fun c => c == '/' || c == '\x7d') pattern with
      | none => view.inFolder isLast pattern "."
      | some ⟨before, '\x7d', behind⟩ =>
        match openingCut? before with
        | none => []
        | some opening =>
          let (folders, start) :=
            match lastCut? (fun c => c == '/' || c == '\x7d') opening.before with
            | some ⟨folder, '/', start⟩ => (search view merges fuel false folder, start)
            | _ => ([""], opening.before)
          let choose (found : List String) (folder : String) : List String :=
            (alternatives opening.behind).foldl (fun found alternative =>
              insertPaths found (search view merges fuel isLast
                (behindFolder folder (start ++ alternative ++ behind)))) found
          if merges then folders.foldl choose []
          else folders.flatMap (choose [])
      | some ⟨before, _, behind⟩ =>
        if hasMeta before then
          (search view merges fuel false before).flatMap (view.inFolder isLast behind)
        else view.inFolder isLast behind (String.ofList before)

/-- The files of a tree that match a pattern. -/
def files (tree : FileTree) (pattern : String) : List String :=
  let (base, inside) := splitBase pattern
  let found := search { tree, base } (hasInnerDoubleStar inside) (inside.length + 1) true inside
  found.map fun path => Path.join [base, path]

end FlowSpec.Glob
