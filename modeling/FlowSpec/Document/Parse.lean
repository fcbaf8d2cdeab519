import FlowSpec.Document.Reading
import FlowSpec.Yaml.Document

/-!
Parsing documents. The text is read as YAML, no mapping may have a key twice, and the sections are
read in the order in which the document has them.
-/

set_option autoImplicit false

namespace FlowSpec.Document

open Yaml (Node Reader)

/-! ### Duplicate keys -/

mutual

/-- The first key that a mapping of the tree has twice, in document order. What stands under a merge
key is passed over. -/
def duplicateKey? (path : String) : Node → Option DuplicateKey
  | .mapping _ _ pairs => duplicateAmong path pairs []
  | .sequence _ _ items => duplicateInItems path items 0
  | _ => none

def duplicateInItems (path : String) : List Node → Nat → Option DuplicateKey
  | [], _ => none
  | item :: rest, index =>
    (duplicateKey? (path ++ "[" ++ toString index ++ "]") item).orElse fun _ =>
      duplicateInItems path rest (index + 1)

/-- `seen` holds the keys met so far with their lines. -/
def duplicateAmong (path : String) : List (Node × Node) → List (String × Nat) → Option DuplicateKey
  | [], _ => none
  | (key, value) :: rest, seen =>
    if key.text == "<<" then duplicateAmong path rest seen
    else match seen.lookup key.text with
      | some firstLine => some { path, key := key.text, line := key.line, firstLine }
      | none =>
        (duplicateKey? (joinPath path key.text) value).orElse fun _ =>
          duplicateAmong path rest ((key.text, key.line) :: seen)

end

/-! ### Sections -/

def readSection {α : Type} (reader : Reader Malformed α) (path : String) (node : Node) :
    Except Malformed α :=
  (reader.decode node).mapError (Malformed.ofFailure path node.line)

/-- Fails unless a node is a mapping. -/
def requireMapping (path : String) (node : Node) : Except Malformed Unit :=
  if node.isMapping then .ok ()
  else .error { path, line := node.line, complaint := .sectionKind (describe node) }

/-- Reads a mapping entry by entry, so that errors tell which entry they are in. -/
def readEntriesOf {α : Type} (reader : Reader Malformed α) (path : String) (node : Node) :
    Except Malformed (List (String × α)) := do
  if !node.isMapping && node.tag == "!!null" then return []
  requireMapping path node
  node.pairs.foldlM (fun entries pair => do
    let value ← readSection reader (joinPath path pair.1.text) pair.2
    return Yaml.putEntry entries pair.1.text value) []

def readStates (path : String) (node : Node) : Except Malformed (List (String × Declaration)) := do
  let states ← readEntriesOf Declaration.reader path node
  states.forM fun (name, declaration) => match declaration with
    | .keyedState .. => .ok ()
    | other => .error { path := joinPath path name, line := other.info.line,
                        complaint := .stateType other.type }
  return states

def readFunction (path : String) (pair : Node × Node) : Except Malformed FunctionEntry := do
  let name := pair.1.text
  let step ← readSection stepReader (joinPath path name) pair.2
  if step.operator.isEmpty then
    throw { path := joinPath path name, line := pair.2.line, complaint := .missingField "operator" }
  return { name, step := if step.uses.isEmpty then { step with uses := name } else step }

/-- Functions keep their order. -/
def readFunctions (path : String) (node : Node) : Except Malformed (List FunctionEntry) := do
  requireMapping path node
  node.pairs.mapM (readFunction path)

/-! ### Documents -/

/-- The mapping at the root of a text. -/
def parseRoot (text : String) : Except Error Node :=
  match Yaml.parse text with
  | .error fault =>
    .error (.malformed { line := fault.line, complaint := .unreadable fault })
  | .ok none => .error .empty
  | .ok (some root) =>
    match duplicateKey? "" root with
    | some duplicate => .error (.duplicateKey duplicate)
    | none =>
      if root.isMapping then .ok root
      else .error (.malformed { line := root.line, complaint := .rootKind (describe root) })

def readVersion (root : Node) : Except Error ApiVersion :=
  let text := root.scalarAt "apiVersion"
  if text.isEmpty then .error (.unsupportedVersion "")
  else match ApiVersion.parse text with
    | .ok version => .ok version
    | .error error =>
      .error (.malformed { path := "apiVersion"
                           line := ((root.find? "apiVersion").map Node.line).getD 0
                           complaint := .apiVersion error })

def unknownField {α : Type} (key : Node) : Except Malformed α :=
  .error { line := key.line, complaint := .unknownField key.text }

def dataflowSection (document : DataflowDocument) (pair : Node × Node) :
    Except Malformed DataflowDocument := do
  let (key, node) := pair
  match key.text with
  | "apiVersion" => return document
  | "meta" => return { document with header := ← readSection metaReader "meta" node }
  | "imports" => return { document with imports := ← readSection importReader.list "imports" node }
  | "types" => return { document with types := ← readEntriesOf Declaration.reader "types" node }
  | "topics" => return { document with topics := ← readEntriesOf topicReader "topics" node }
  | "config" =>
    return { document with defaults := ← readSection defaultsReader.optional "config" node }
  | "dev" =>
    return { document with development := ← readSection developmentReader.optional "dev" node }
  | "services" => return { document with services := ← readEntriesOf serviceReader "services" node }
  | "schedule" =>
    return { document with schedules := ← readEntriesOf scheduleReader "schedule" node }
  | _ => unknownField key

def packageSection (document : PackageDocument) (pair : Node × Node) :
    Except Malformed PackageDocument := do
  let (key, node) := pair
  match key.text with
  | "apiVersion" => return document
  | "meta" => return { document with header := ← readSection metaReader "meta" node }
  | "imports" => return { document with imports := ← readSection importReader.list "imports" node }
  | "types" => return { document with types := ← readEntriesOf Declaration.reader "types" node }
  | "states" => return { document with states := ← readStates "states" node }
  | "functions" => return { document with functions := ← readFunctions "functions" node }
  | "dev" =>
    return { document with development := ← readSection developmentReader.optional "dev" node }
  | _ => unknownField key

def requireName (root : Node) (header : Meta) : Except Malformed Unit :=
  if header.name.isEmpty then
    .error { path := "meta", line := root.line, complaint := .missingField "name" }
  else .ok ()

/-- A parsed dataflow; one of an old version has no more than its header. -/
structure ParsedDataflow where
  version : ApiVersion
  header : Meta
  document : Option DataflowDocument
deriving Inhabited

/-- The content of a dataflow of a current version. -/
def ParsedDataflow.content (parsed : ParsedDataflow) : Except Error DataflowDocument :=
  match parsed.document with
  | some document => .ok document
  | none => .error (.unsupportedVersion parsed.version.text)

def parseLegacy (version : ApiVersion) (root : Node) : Except Malformed ParsedDataflow := do
  let header ← match root.find? "meta" with
    | some node => readSection metaReader "meta" node
    | none => pure {}
  return { version, header, document := none }

def checkSchedules (schedules : List (String × String)) : Except Schedule.Error Unit :=
  (Text.sortByName Prod.fst schedules).forM fun (name, cron) => Schedule.validate { name, cron }

def parseCurrent (version : ApiVersion) (root : Node) : Except Error ParsedDataflow := do
  let document ← (root.pairs.foldlM dataflowSection { apiVersion := version.text }).mapError
    Error.malformed
  (requireName root document.header).mapError Error.malformed
  (checkSchedules document.schedules).mapError Error.schedule
  return { version, header := document.header, document := some document }

def parseDataflow (text : String) : Except Error ParsedDataflow := do
  let root ← parseRoot text
  let version ← readVersion root
  if ApiVersion.legacyDataflows.contains version.text then
    (parseLegacy version root).mapError Error.malformed
  else if ApiVersion.currentDataflows.contains version.text then parseCurrent version root
  else throw (.unsupportedVersion version.text)

structure ParsedPackage where
  version : ApiVersion
  document : PackageDocument
deriving Inhabited

def parsePackage (text : String) : Except Error ParsedPackage := do
  let root ← parseRoot text
  let version ← readVersion root
  if !ApiVersion.packages.contains version.text then throw (.unsupportedVersion version.text)
  let document ← (root.pairs.foldlM packageSection { apiVersion := version.text }).mapError
    Error.malformed
  (requireName root document.header).mapError Error.malformed
  return { version, document }

end FlowSpec.Document
