import FlowSpec.Text.Quoted
import FlowSpec.Yaml.Node
import FlowSpec.Yaml.Scalar

/-!
Reading node trees into typed values. A value of the wrong kind is noted and reading goes on, so
that one report lists every mismatch; a broken rule of the value's own stops reading at once. Keys
of a record that it does not know are passed over, and a `<<` key supplies the entries that the
mapping itself lacks.
-/

set_option autoImplicit false

namespace FlowSpec.Yaml

/-- A part of the tree that does not fit the value read from it. -/
inductive Mismatch where
  | kind (line : Nat) (tag : String) (value : Option String) (wanted : String)
  | repeatedKey (line : Nat) (key : String) (first : Nat)
deriving Repr, DecidableEq, Inhabited

/-- Values of more than ten octets are cut after seven. A character that is cut through shows as one
replacement mark for each octet left of it. -/
def excerpt (value : String) : String :=
  if value.utf8ByteSize ≤ 10 then value else String.ofList (cut 7 value.toList) ++ "..."
where
  cut : Nat → List Char → List Char
    | _, [] => []
    | room, c :: rest =>
      if c.utf8Size ≤ room then c :: cut (room - c.utf8Size) rest else List.replicate room '\ufffd'

def Mismatch.text : Mismatch → String
  | kind line tag value wanted =>
    "line " ++ toString line ++ ": cannot unmarshal " ++ tag
      ++ (match value with | some value => " `" ++ excerpt value ++ "`" | none => "")
      ++ " into " ++ wanted
  | repeatedKey line key first =>
    "line " ++ toString line ++ ": mapping key " ++ Text.quoted key ++ " already defined at line "
      ++ toString first

/-- Why reading failed: a fault of the text, mismatches, or a broken rule of the value read. -/
inductive Failure (ε : Type) where
  | problem (cause : Problem)
  | mismatches (found : List Mismatch)
  | rule (cause : ε)
deriving Repr, Inhabited

/-- Reading notes mismatches, in order, and may stop. -/
abbrev Reading (ε : Type) := StateT (List Mismatch) (Except (Failure ε))

namespace Reading

variable {ε α : Type}

def note (mismatch : Mismatch) : Reading ε Unit := modify (· ++ [mismatch])

def fail (problem : Problem) : Reading ε α := throw (.problem problem)

/-- Ends a reading: mismatches that were noted fail it. -/
def finish (reading : Reading ε α) : Except (Failure ε) α :=
  match reading.run [] with
  | .error failure => .error failure
  | .ok (value, []) => .ok value
  | .ok (_, found) => .error (.mismatches found)

/-- Runs a rule of a value of its own; its mismatches join those of the reading around it. -/
def nested (run : Except (Failure ε) α) (otherwise : α) : Reading ε (α × Bool) :=
  match run with
  | .ok value => return (value, true)
  | .error (.mismatches found) => do
    found.forM note
    return (otherwise, false)
  | .error failure => throw failure

end Reading

/-- How values of a type are read. `wanted` names the type in mismatches. Reading starts from a
value, which is kept where the tree says nothing, and tells whether the tree held a value. -/
structure Reader (ε α : Type) where
  wanted : String
  zero : α
  read : Node → α → Reading ε (α × Bool)

variable {ε α ρ : Type}

/-- The node an alias stands for. -/
def Node.target : Node → Reading ε Node
  | .reference _ _ (some target) => return target
  | .reference _ name none => Reading.fail (.selfContaining name)
  | node => return node

/-- Notes that a node is not what was wanted. -/
def Node.misfit (node : Node) (wanted : String) : Reading ε Unit :=
  let value := if node.tag == "!!seq" || node.tag == "!!map" then none else some node.text
  Reading.note (.kind node.line node.tag value wanted)

/-- Keys that occur twice in a mapping, each against the first. -/
def repeatedKeys : List (Node × Node) → List Mismatch
  | [] => []
  | (key, _) :: rest =>
    (rest.filterMap fun pair => if sameKey key pair.1 then
      some (.repeatedKey pair.1.line pair.1.text key.line) else none) ++ repeatedKeys rest
where
  sameKey : Node → Node → Bool
    | .scalar _ _ a, .scalar _ _ b => a == b
    | .reference _ a _, .reference _ b _ => a == b
    | .sequence .., .sequence .. => true
    | .mapping .., .mapping .. => true
    | _, _ => false

/-- Reads a node that is no alias: nothing, a scalar by `scalar`, or one of the two collections. -/
def readKinds (wanted : String) (null : α → α × Bool) (scalar : String → Scalar → Option α)
    (sequence : Option (List Node → α → Reading ε (α × Bool)))
    (mapping : Option (Node → α → Reading ε (α × Bool))) (node : Node) (old : α) :
    Reading ε (α × Bool) := do
  let node ← node.target
  match node with
  | .scalar tag _ value =>
    match Scalar.resolve tag value with
    | .error problem => Reading.fail problem
    | .ok .null => return null old
    | .ok found => match scalar value found with
      | some new => return (new, true)
      | none => do
        node.misfit wanted
        return (old, false)
  | .sequence _ _ items => match sequence with
    | some read => read items old
    | none => do
      node.misfit wanted
      return (old, false)
  | .mapping _ _ pairs =>
    let repeated := repeatedKeys pairs
    if repeated.isEmpty then
      match mapping with
      | some read => read node old
      | none => do
        node.misfit wanted
        return (old, false)
    else
      repeated.forM Reading.note
      return (old, false)
  | .reference .. => return (old, false)

namespace Reader

def string : Reader ε String where
  wanted := "string"
  zero := ""
  read := readKinds "string" (·, false) (fun text _ => some text) none none

/-- Truth values, and the words of older YAML for them. -/
def bool : Reader ε Bool where
  wanted := "bool"
  zero := false
  read := readKinds "bool" (·, false) (fun _ found => match found with
    | .bool b => some b
    | .text word =>
      if ["y", "Y", "yes", "Yes", "YES", "on", "On", "ON"].contains word then some true
      else if ["n", "N", "no", "No", "NO", "off", "Off", "OFF"].contains word then some false
      else none
    | _ => none) none none

/-- The whole part of a number, as a signed word of 64 bits; what does not fit is the least word. -/
def wholePart (number : Float) : Int :=
  if number < 9223372036854775808.0 && -9223372036854775809.0 < number then number.toInt64.toInt
  else -Word.half

def int64 (wanted : String) : Reader ε Int where
  wanted
  zero := 0
  read := readKinds wanted (·, false) (fun _ found => match found with
    | .int n => if n < Word.half then some n else none
    | .float x => if x ≤ 9223372036854775808.0 then some (wholePart x) else none
    | _ => none) none none

def uint64 : Reader ε Nat where
  wanted := "uint64"
  zero := 0
  read := readKinds "uint64" (·, false) (fun _ found => match found with
    | .int n => if 0 ≤ n then some n.toNat else none
    | .float x =>
      if x < 9223372036854775808.0 then some ((wholePart x) % Word.count).toNat
      else if x ≤ 18446744073709551616.0 then
        some ((wholePart (x - 9223372036854775808.0) + Word.half) % Word.count).toNat
      else none
    | _ => none) none none

/-- A value that may be left out; null leaves it out. -/
def optional (inner : Reader ε α) : Reader ε (Option α) where
  wanted := inner.wanted
  zero := none
  read := fun node old => do
    let node ← node.target
    if node.tag == "!!null" then
      readKinds ("*" ++ inner.wanted) (fun _ => (none, true)) (fun _ _ => none) none none node old
    else
      let (value, good) ← inner.read node (old.getD inner.zero)
      return (some value, good)

/-- The elements that hold a value; null among them is passed over. -/
def list (inner : Reader ε α) : Reader ε (List α) where
  wanted := "[]" ++ inner.wanted
  zero := []
  read := readKinds ("[]" ++ inner.wanted) (fun _ => ([], true)) (fun _ _ => none)
    (some fun items _ => do
      let read ← items.mapM fun item => inner.read item inner.zero
      return (read.filterMap fun (value, good) => if good then some value else none, true)) none

end Reader

/-! ### Mappings with merge keys -/

/-- A `<<` key that was not quoted. -/
def Node.isMerge : Node → Bool
  | .scalar tag _ value => value == "<<" && tag == "!!merge"
  | _ => false

/-- What a mapping with merge keys supplies, in order: entries, or a fault that stops reading. -/
inductive Layer where
  | entries (pairs : List (Node × Node))
  | fault (problem : Problem)

mutual

/-- The layers behind a merge key. -/
def Node.mergeLayers : Node → List Layer
  | .mapping _ _ pairs => .entries pairs :: ownMerge pairs
  | .reference _ name none => [.fault (.selfContaining name)]
  | .reference _ _ (some (.mapping _ _ pairs)) => .entries pairs :: ownMerge pairs
  | .sequence _ _ items => mergeItems items
  | _ => [.fault .mergeNeedsMapping]

def mergeItems : List Node → List Layer
  | [] => []
  | .mapping _ _ pairs :: rest => .entries pairs :: ownMerge pairs ++ mergeItems rest
  | .reference _ name none :: rest => .fault (.selfContaining name) :: mergeItems rest
  | .reference _ _ (some (.mapping _ _ pairs)) :: rest =>
    .entries pairs :: ownMerge pairs ++ mergeItems rest
  | _ :: rest => .fault .mergeNeedsMapping :: mergeItems rest

/-- The layers a merged mapping brings along; one that repeats a key brings none. -/
def ownMerge (pairs : List (Node × Node)) : List Layer :=
  if (repeatedKeys pairs).isEmpty then lastMerge pairs [] else []

/-- The layers of the last merge key of a mapping. -/
def lastMerge : List (Node × Node) → List Layer → List Layer
  | [], found => found
  | (key, value) :: rest, found => lastMerge rest (if key.isMerge then value.mergeLayers else found)

end

/-- Keys that block entries of merged mappings: those that are text. -/
def textKeys (pairs : List (Node × Node)) : List String :=
  pairs.filterMap fun pair => match pair.1 with
    | .scalar tag _ value => if tag == "!!str" then some value else none
    | .reference _ _ (some (.scalar tag _ value)) => if tag == "!!str" then some value else none
    | _ => none

/-- Reads the entries of one layer. `taken` holds the keys that are settled by the layers before, if
there are any. -/
def readLayer (enter : String → Node → ρ → Reading ε ρ) (merged : Bool) :
    List (Node × Node) → List String → ρ → Reading ε (List String × ρ)
  | [], taken, out => return (taken, out)
  | (key, value) :: rest, taken, out => do
    if key.isMerge then readLayer enter merged rest taken out
    else
      let (name, good) ← Reader.string.read key ""
      if !good || (merged && taken.contains name) then readLayer enter merged rest taken out
      else
        let out ← enter name value out
        readLayer enter merged rest (if merged then name :: taken else taken) out

/-- Reads a mapping and the layers merged into it. -/
def readEntries (enter : String → Node → ρ → Reading ε ρ) (node : Node) (old : ρ) :
    Reading ε ρ := do
  let (_, own) ← readLayer enter false node.pairs [] old
  let rec merge : List Layer → List String → ρ → Reading ε ρ
    | [], _, out => return out
    | .fault problem :: _, _, _ => Reading.fail problem
    | .entries pairs :: rest, taken, out => do
      let repeated := repeatedKeys pairs
      if repeated.isEmpty then
        let (taken, out) ← readLayer enter true pairs taken out
        merge rest taken out
      else
        repeated.forM Reading.note
        merge rest taken out
  merge (lastMerge node.pairs []) (textKeys node.pairs) own

/-- A field of a record: its key and how its value enters the record. -/
structure Field (ε ρ : Type) where
  name : String
  enter : Node → ρ → Reading ε ρ

/-- The field that `reader` reads. -/
def Reader.field (reader : Reader ε α) (name : String) (get : ρ → α) (set : ρ → α → ρ) :
    Field ε ρ where
  name
  enter := fun node record => do
    let (value, _) ← reader.read node (get record)
    return set record value

/-- A record of named fields. -/
def Reader.record (wanted : String) (zero : ρ) (fields : List (Field ε ρ)) : Reader ε ρ where
  wanted
  zero
  read := readKinds wanted (·, false) (fun _ _ => none) none
    (some fun node old => do
      let enter (name : String) (value : Node) (record : ρ) : Reading ε ρ :=
        match fields.find? (·.name == name) with
        | some field => field.enter value record
        | none => return record
      return (← readEntries enter node old, true))

/-- A mapping from names to values, in the order of first mention; a name that occurs again gets the
later value. -/
def putEntry (entries : List (String × α)) (name : String) (value : α) : List (String × α) :=
  if entries.any (·.1 == name) then
    entries.map fun entry => if entry.1 == name then (name, value) else entry
  else entries ++ [(name, value)]

def Reader.entries (inner : Reader ε α) : Reader ε (List (String × α)) where
  wanted := "map[string]" ++ inner.wanted
  zero := []
  read := readKinds ("map[string]" ++ inner.wanted) (fun _ => ([], true)) (fun _ _ => none) none
    (some fun node old => do
      let enter (name : String) (value : Node) (entries : List (String × α)) :
          Reading ε (List (String × α)) := do
        let (read, good) ← inner.read value inner.zero
        return if good || value.valueTag == "!!null" then putEntry entries name read else entries
      return (← readEntries enter node old, true))

/-- A type with a rule of its own for nodes that are not null. -/
def Reader.custom (wanted : String) (zero : α) (rule : Node → Except (Failure ε) α) :
    Reader ε α where
  wanted
  zero
  read := fun node old => do
    let node ← node.target
    if node.tag == "!!null" then
      readKinds wanted (·, false) (fun _ _ => none) none none node old
    else Reading.nested (rule node) old

/-- Reads a whole node. -/
def Reader.decode (reader : Reader ε α) (node : Node) : Except (Failure ε) α :=
  Reading.finish do
    let (value, _) ← reader.read node reader.zero
    return value

end FlowSpec.Yaml
