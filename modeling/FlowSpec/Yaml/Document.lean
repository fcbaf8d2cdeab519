import FlowSpec.Yaml.Node
import FlowSpec.Yaml.Scalar
import FlowSpec.Yaml.Token.Lexer

/-!
The first document of a YAML text as a node tree. Tokens are taken one by one, so the first fault in
the order of reading is the one reported. What follows the first document is not looked at.
-/

set_option autoImplicit false

namespace FlowSpec.Yaml

/-- The state of reading a document: tokens to come, anchors by name (the latest first), the nodes
that were anchored (none while a node is still being read), and the tag handles that are
declared. -/
structure Composer where
  lexer : Lexer
  anchors : List (String × Nat) := []
  anchored : Array (Option Node) := #[]
  handles : List (String × String) := []

abbrev Compose := StateT Composer (Except Fault)

namespace Compose

def fail {α : Type} (problem : Problem) (began stopped : Mark) : Compose α :=
  throw (.structural problem began stopped)

def peek : Compose Token := do
  let st ← get
  match st.lexer.peek with
  | .ok (token, lexer) =>
    set { st with lexer }
    return token
  | .error fault => throw fault

def drop : Compose Unit := modify fun st => { st with lexer := st.lexer.drop }

/-- The token after the next one. -/
def advance : Compose Token := do
  drop
  peek

def shortTag (tag : String) : String :=
  if tag.startsWith "tag:yaml.org,2002:" then "!!" ++ (tag.drop 18).toString else tag

/-- The node of a scalar. A tag `!` is as good as none. -/
def scalarNode (tag : String) (line : Nat) (plain : Bool) (text : String) : Node :=
  if tag != "" && tag != "!" then .scalar (shortTag tag) line text
  else if !plain then .scalar "!!str" line text
  else .scalar (Scalar.ofText "" text).tag line text

def emptyNode (mark : Mark) : Node := scalarNode "" (mark.line + 1) true ""

/-- Anchors a node that is complete, or one that is about to be read. -/
def anchor (name : Option String) (node : Option Node) : Compose (Option (String × Nat)) := do
  match name with
  | none => return none
  | some name =>
    let st ← get
    let number := st.anchored.size
    set { st with anchors := (name, number) :: st.anchors, anchored := st.anchored.push node }
    return some (name, number)

/-- Completes an anchored node; aliases inside it that name it get one copy of it. -/
def complete (registered : Option (String × Nat)) (node : Node) : Compose Node := do
  match registered with
  | none => return node
  | some (name, number) =>
    let node := node.tie name node
    modify fun st => { st with anchored := st.anchored.setIfInBounds number (some node) }
    return node

def aliasNode (name : String) (mark : Mark) : Compose Node := do
  let st ← get
  match st.anchors.lookup name with
  | none => throw { problem := .unknownAnchor name }
  | some number => return .reference (mark.line + 1) name ((st.anchored[number]?).join)

/-- Anchor and tag in front of a node, in either order. -/
structure Properties where
  start : Mark
  anchor : Option String := none
  tag : Option (String × String × Mark) := none

def properties : Compose Properties := do
  let token ← peek
  let props : Properties := { start := token.start }
  match token.kind with
  | .anchor name =>
    let next ← advance
    match next.kind with
    | .tag handle suffix =>
      drop
      return { props with anchor := some name, tag := some (handle, suffix, next.start) }
    | _ => return { props with anchor := some name }
  | .tag handle suffix =>
    let next ← advance
    match next.kind with
    | .anchor name =>
      drop
      return { props with anchor := some name, tag := some (handle, suffix, token.start) }
    | _ => return { props with tag := some (handle, suffix, token.start) }
  | _ => return props

/-- The tag that a handle and a suffix stand for. -/
def fullTag (props : Properties) : Compose String := do
  match props.tag with
  | none => return ""
  | some (handle, suffix, mark) =>
    if handle == "" then return suffix
    else
      let full := match (← get).handles.lookup handle with
        | some expansion => expansion ++ suffix
        | none => ""
      if full == "" then fail .undefinedTagHandle props.start mark
      return full

def collectionTag (tag kind : String) : String :=
  if tag != "" && tag != "!" then shortTag tag else kind

mutual

/-- One node. Block collections are allowed in block context only; an entry dash begins a sequence
where `dashes` says so. -/
def node : Nat → Bool → Bool → Compose Node
  | 0, _, _ => throw { problem := .exhausted }
  | fuel + 1, block, dashes => do
    let token ← peek
    if let .reference name := token.kind then
      drop
      return ← aliasNode name token.start
    let props ← properties
    let token ← peek
    let tag ← fullTag props
    let line := props.start.line + 1
    if dashes && token.kind == .blockEntry then
      let registered ← anchor props.anchor none
      let items ← dashedEntries fuel []
      return ← complete registered (.sequence (collectionTag tag "!!seq") line items)
    match token.kind with
    | .scalar text plain =>
      let made := scalarNode tag line plain text
      let _ ← anchor props.anchor (some made)
      drop
      return made
    | .flowSequenceStart =>
      let registered ← anchor props.anchor none
      drop
      let items ← flowItems fuel token.start true []
      complete registered (.sequence (collectionTag tag "!!seq") line items)
    | .flowMappingStart =>
      let registered ← anchor props.anchor none
      drop
      let pairs ← flowPairs fuel token.start true []
      complete registered (.mapping (collectionTag tag "!!map") line pairs)
    | .blockSequenceStart =>
      if !block then fail .expectedContent props.start token.start
      let registered ← anchor props.anchor none
      drop
      let items ← blockItems fuel token.start []
      complete registered (.sequence (collectionTag tag "!!seq") line items)
    | .blockMappingStart =>
      if !block then fail .expectedContent props.start token.start
      let registered ← anchor props.anchor none
      drop
      let pairs ← blockPairs fuel token.start []
      complete registered (.mapping (collectionTag tag "!!map") line pairs)
    | _ =>
      if props.anchor.isSome || tag != "" then
        let made := scalarNode tag line true ""
        let _ ← anchor props.anchor (some made)
        return made
      else fail .expectedContent props.start token.start

/-- The entries of a block sequence. -/
def blockItems : Nat → Mark → List Node → Compose (List Node)
  | 0, _, _ => throw { problem := .exhausted }
  | fuel + 1, began, items => do
    let token ← peek
    match token.kind with
    | .blockEntry =>
      let next ← advance
      if next.kind == .blockEntry || next.kind == .blockEnd then
        blockItems fuel began (emptyNode token.stop :: items)
      else blockItems fuel began ((← node fuel true false) :: items)
    | .blockEnd =>
      drop
      return items.reverse
    | _ => fail .expectedDash began token.start

/-- The entries of a sequence that is not indented more than the mapping it stands in. -/
def dashedEntries : Nat → List Node → Compose (List Node)
  | 0, _ => throw { problem := .exhausted }
  | fuel + 1, items => do
    let token ← peek
    if token.kind == .blockEntry then
      let next ← advance
      if next.kind == .blockEntry || next.kind == .key || next.kind == .value
          || next.kind == .blockEnd then
        dashedEntries fuel (emptyNode token.stop :: items)
      else dashedEntries fuel ((← node fuel true false) :: items)
    else return items.reverse

/-- The entries of a block mapping. -/
def blockPairs : Nat → Mark → List (Node × Node) → Compose (List (Node × Node))
  | 0, _, _ => throw { problem := .exhausted }
  | fuel + 1, began, pairs => do
    let token ← peek
    match token.kind with
    | .key =>
      let next ← advance
      let key ←
        if next.kind == .key || next.kind == .value || next.kind == .blockEnd then
          pure (emptyNode token.stop)
        else node fuel true true
      let value ← blockValue fuel
      blockPairs fuel began ((key, value) :: pairs)
    | .blockEnd =>
      drop
      return pairs.reverse
    | _ => fail .expectedKey began token.start

/-- The value behind a key of a block mapping. -/
def blockValue : Nat → Compose Node
  | 0 => throw { problem := .exhausted }
  | fuel + 1 => do
    let token ← peek
    if token.kind == .value then
      let next ← advance
      if next.kind == .key || next.kind == .value || next.kind == .blockEnd then
        return emptyNode token.stop
      else node fuel true true
    else return emptyNode token.start

/-- The items of a flow sequence; a key among them begins a mapping of one entry. -/
def flowItems : Nat → Mark → Bool → List Node → Compose (List Node)
  | 0, _, _, _ => throw { problem := .exhausted }
  | fuel + 1, began, first, items => do
    let token ← peek
    let token ←
      if token.kind == .flowSequenceEnd || first then pure token
      else if token.kind == .flowEntry then advance
      else fail .expectedSequenceClose began token.start
    match token.kind with
    | .flowSequenceEnd =>
      drop
      return items.reverse
    | .key =>
      drop
      let pair ← singlePair fuel
      flowItems fuel began false (.mapping "!!map" (token.start.line + 1) [pair] :: items)
    | _ => flowItems fuel began false ((← node fuel false false) :: items)

/-- The one entry of a mapping written as an item of a flow sequence. -/
def singlePair : Nat → Compose (Node × Node)
  | 0 => throw { problem := .exhausted }
  | fuel + 1 => do
    let token ← peek
    let key ←
      if token.kind == .value || token.kind == .flowEntry || token.kind == .flowSequenceEnd then do
        drop
        pure (emptyNode token.stop)
      else node fuel false false
    let token ← peek
    if token.kind == .value then
      let next ← advance
      if next.kind == .flowEntry || next.kind == .flowSequenceEnd then
        return (key, emptyNode token.start)
      else return (key, ← node fuel false false)
    else return (key, emptyNode token.start)

/-- The entries of a flow mapping. -/
def flowPairs : Nat → Mark → Bool → List (Node × Node) → Compose (List (Node × Node))
  | 0, _, _, _ => throw { problem := .exhausted }
  | fuel + 1, began, first, pairs => do
    let token ← peek
    let token ←
      if token.kind == .flowMappingEnd || first then pure token
      else if token.kind == .flowEntry then advance
      else fail .expectedMappingClose began token.start
    match token.kind with
    | .flowMappingEnd =>
      drop
      return pairs.reverse
    | .key =>
      let next ← advance
      let key ←
        if next.kind == .value || next.kind == .flowEntry || next.kind == .flowMappingEnd then
          pure (emptyNode next.start)
        else node fuel false false
      let token ← peek
      let value ←
        if token.kind == .value then do
          let next ← advance
          if next.kind == .flowEntry || next.kind == .flowMappingEnd then
            pure (emptyNode next.start)
          else node fuel false false
        else pure (emptyNode token.start)
      flowPairs fuel began false ((key, value) :: pairs)
    | _ =>
      let key ← node fuel false false
      let token ← peek
      flowPairs fuel began false ((key, emptyNode token.start) :: pairs)

end

def defaultHandles : List (String × String) := [("!", "!"), ("!!", "tag:yaml.org,2002:")]

/-- The directives in front of a document. -/
def directives : Nat → Bool → Compose Unit
  | 0, _ => throw { problem := .exhausted }
  | fuel + 1, versioned => do
    let token ← peek
    match token.kind with
    | .versionDirective major minor =>
      if versioned then fail .repeatedVersionDirective {} token.start
      if major ≠ 1 || minor ≠ 1 then fail .incompatibleVersion {} token.start
      drop
      directives fuel true
    | .tagDirective handle expansion =>
      if ((← get).handles.lookup handle).isSome then fail .repeatedTagDirective {} token.start
      modify fun st => { st with handles := st.handles ++ [(handle, expansion)] }
      drop
      directives fuel versioned
    | _ => modify fun st => { st with handles := st.handles ++ defaultHandles }

/-- The root of the first document, or none for a text without one. -/
def document (fuel : Nat) : Compose (Option Node) := do
  let _ ← peek
  drop
  let token ← peek
  match token.kind with
  | .streamEnd => return none
  | .versionDirective .. | .tagDirective .. | .documentStart =>
    directives fuel false
    let token ← peek
    if token.kind != .documentStart then fail .expectedDocumentStart {} token.start
    let next ← advance
    let root ← match next.kind with
      | .versionDirective .. | .tagDirective .. | .documentStart | .documentEnd | .streamEnd =>
        pure (emptyNode next.start)
      | _ => node fuel true false
    let _ ← peek
    return some root
  | _ =>
    directives fuel false
    let root ← node fuel true false
    let _ ← peek
    return some root

end Compose

/-- Reads the first document of a text. Every node takes a token, so the length of the text bounds
the steps. -/
def parse (text : String) : Except Fault (Option Node) :=
  (·.1) <$> (Compose.document (4 * text.length + 64)).run { lexer := Lexer.ofText text }

end FlowSpec.Yaml
