import FlowSpec.Command.Run

/-!
The command line on the files of the machine. The files below the working folder, and those around
absolute paths among the arguments, are read first; what a command adds to them is written
afterwards.
-/

set_option autoImplicit false

namespace FlowSpec.Main

/-- Reads everything below a folder. What cannot be read as text is passed over. -/
partial def gather (folder : String) (tree : FileTree) : IO FileTree := do
  let place ← IO.FS.realPath folder
  let entries ← place.readDir
  entries.foldlM (fun tree entry => do
    let path := Path.join [folder, entry.fileName]
    if ← entry.path.isDir then
      if entry.fileName == ".git" then return tree else gather path (tree.addFolder path)
    else
      try return tree.write path (← IO.FS.readFile path)
      catch _ => return tree) tree

/-- The folder around an absolute path, with the folder's neighbours. -/
def surroundings (path : String) : String :=
  let folder := Path.parent path
  if Path.parent folder == "/" then folder else Path.parent folder

/-- The variables that settings are taken from. -/
def settings : List String :=
  ["SDFC_OUTPUT", "SDFC_DATAFLOW_FILE", "SDFC_PACKAGE_FILE", "SDFC_LOG_LEVEL",
    "SDFC_AVRO_NAMESPACE", "SDFC_DEV", "SDFC_LOG_JSON"]

def environment : IO Config.Environment := do
  let values ← settings.mapM fun name => do
    return (← IO.getEnv name).map fun value => (name, value)
  return values.filterMap id

/-- Writes the files that are new or have changed. -/
def save (before after : FileTree) : IO Unit :=
  after.files.forM fun (path, text) => do
    if before.files.lookup path ≠ some text then
      IO.FS.createDirAll (Path.parent path)
      IO.FS.writeFile path text

end FlowSpec.Main

open FlowSpec in
def main (arguments : List String) : IO UInt32 := do
  let absolute := arguments.filter fun argument => argument.toList.head? = some '/'
  let folders := "." :: absolute.map Main.surroundings
  let tree ← folders.foldlM (fun tree folder =>
    try Main.gather folder tree catch _ => return tree) ({} : FileTree)
  let outcome := Command.run { tree, environment := ← Main.environment } arguments
  IO.print outcome.out
  IO.eprint outcome.err
  IO.eprint outcome.help
  Main.save tree outcome.tree
  return UInt32.ofNat outcome.code
