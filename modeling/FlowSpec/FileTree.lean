import FlowSpec.Path
import FlowSpec.Text.Order

/-!
Files by path. The folders above a file come into being with it and stay when it is removed; read as
a file, a folder is empty.
-/

set_option autoImplicit false

namespace FlowSpec

structure FileTree where
  files : List (String × String) := []
  folders : List String := ["/"]
deriving Repr, DecidableEq, Inhabited

namespace FileTree

/-- The form under which a path is stored. -/
def normal (path : String) : String :=
  let path := Path.clean path
  if path == "." || path == ".." then "/" else path

/-- The folders above a path, nearest first; a path has at most as many as it has characters. -/
def above : Nat → String → List String
  | 0, _ => []
  | fuel + 1, path =>
    let folder := normal (Path.parent path)
    if folder == "/" then [] else folder :: above fuel folder

def addFolder (tree : FileTree) (path : String) : FileTree :=
  let path := normal path
  let added := (path :: above path.length path).filter fun folder => !tree.folders.contains folder
  { tree with folders := tree.folders ++ added }

def write (tree : FileTree) (path text : String) : FileTree :=
  let path := normal path
  let tree := (above path.length path).foldl addFolder tree
  { tree with files := (tree.files.filter fun file => file.1 ≠ path) ++ [(path, text)] }

def remove (tree : FileTree) (path : String) : FileTree :=
  let path := normal path
  { files := tree.files.filter fun file => file.1 ≠ path
    folders := tree.folders.filter (· ≠ path) }

def has (tree : FileTree) (path : String) : Bool :=
  let path := normal path
  tree.files.any (fun file => file.1 == path) || tree.folders.contains path

def isFolder (tree : FileTree) (path : String) : Bool :=
  let path := normal path
  !tree.files.any (fun file => file.1 == path) && tree.folders.contains path

/-- Directly inside a folder. -/
def isInside (folder path : String) : Bool := path ≠ "/" && normal (Path.parent path) == folder

/-- The names in a folder in order, each with whether it is a folder itself. -/
def entries (tree : FileTree) (path : String) : List (String × Bool) :=
  if tree.isFolder path then
    let folder := normal path
    let files := (tree.files.map Prod.fst).filter (isInside folder)
    let folders := tree.folders.filter fun inner =>
      isInside folder inner && !tree.files.any fun file => file.1 == inner
    Text.sortByName Prod.fst (files.map (fun file => (Path.base file, false))
      ++ folders.map fun inner => (Path.base inner, true))
  else []

/-- A file that is not there. -/
structure NotFound where
  path : String
deriving Repr, DecidableEq, Inhabited

def NotFound.message (error : NotFound) : String := "open " ++ error.path ++ ": file does not exist"

def read (tree : FileTree) (path : String) : Except NotFound String :=
  let path := normal path
  match tree.files.lookup path with
  | some text => .ok text
  | none => if tree.folders.contains path then .ok "" else .error ⟨path⟩

end FileTree

end FlowSpec
