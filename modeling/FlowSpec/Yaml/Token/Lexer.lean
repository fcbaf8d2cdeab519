import FlowSpec.Yaml.Token.Scalar
import FlowSpec.Yaml.Token.Tag

/-!
The token stream of a YAML text, read on demand. A key is seen as a key only at its colon, so tokens
that may begin a key are held back: a token is handed out once two more stand behind it and it can
no longer turn out to be a key. Tokens that mark a key and its mapping are put in front of it.

Reading on demand decides which of two faults is reported, so the order of steps is part of what is
computed here.
-/

set_option autoImplicit false

namespace FlowSpec.Yaml

/-- A place where a key may have begun: the number of its first token and where it stands. A
required key that finds no colon on its line is a fault. -/
structure KeySlot where
  possible : Bool := false
  required : Bool := false
  number : Nat := 0
  mark : Mark := {}
deriving Repr, Inhabited

structure Lexer where
  cursor : Cursor
  /-- The text goes on with a character that cannot be read. -/
  truncated : Bool := false
  started : Bool := false
  /-- Tokens read and not handed out. -/
  queue : List Token := []
  /-- How many tokens were handed out. -/
  taken : Nat := 0
  indent : Int := -1
  indents : List Int := []
  keyAllowed : Bool := false
  /-- One slot for the block context and one for each open flow collection, the innermost first. -/
  slots : List KeySlot := []
  /-- Which slot was filled for a token number, as a height in the stack of slots. -/
  slotOf : List (Nat × Nat) := []
deriving Repr, Inhabited

namespace Lexer

def flow (lexer : Lexer) : Bool := lexer.slots.length > 1

def nextNumber (lexer : Lexer) : Nat := lexer.taken + lexer.queue.length

def slot (lexer : Lexer) : KeySlot := lexer.slots.headD {}

def setSlot (lexer : Lexer) (slot : KeySlot) : Lexer :=
  { lexer with slots := slot :: lexer.slots.tail }

def forget (lexer : Lexer) (number : Nat) : Lexer :=
  { lexer with slotOf := lexer.slotOf.filter fun entry => entry.1 != number }

def push (lexer : Lexer) (token : Token) : Lexer := { lexer with queue := lexer.queue ++ [token] }

/-- Puts a token in front of the one with the given number. -/
def insertAt (lexer : Lexer) (number : Nat) (token : Token) : Lexer :=
  let place := number - lexer.taken
  { lexer with queue := lexer.queue.take place ++ token :: lexer.queue.drop place }

/-- A possible key is given up once its line is left or 1024 characters were passed. -/
def expired (lexer : Lexer) (slot : KeySlot) : Bool :=
  slot.mark.line < lexer.cursor.mark.line || slot.mark.index + 1024 < lexer.cursor.mark.index

/-- Whether the slot at a height of the stack can still become a key; an expired one is cleared. -/
def checkSlot (lexer : Lexer) (height : Nat) : Except Fault (Bool × Lexer) :=
  let depth := lexer.slots.length - 1 - height
  match lexer.slots[depth]? with
  | none => .ok (false, lexer)
  | some slot =>
    if !slot.possible then .ok (false, lexer)
    else if lexer.expired slot then
      if slot.required then .error (.lexical .expectedColon slot.mark lexer.cursor.mark)
      else
        .ok (false, { lexer with slots := lexer.slots.set depth { slot with possible := false } })
    else .ok (true, lexer)

/-- Gives up the possible key of the innermost context. -/
def dropKey (lexer : Lexer) : Except Fault Lexer :=
  let slot := lexer.slot
  if slot.possible then
    if slot.required then .error (.lexical .expectedColon slot.mark lexer.cursor.mark)
    else .ok ((lexer.setSlot { slot with possible := false }).forget slot.number)
  else .ok lexer

/-- Remembers that a key may begin here. -/
def saveKey (lexer : Lexer) : Except Fault Lexer := do
  if lexer.keyAllowed then
    let required := !lexer.flow && lexer.indent == lexer.cursor.mark.column
    let number := lexer.nextNumber
    let mark := lexer.cursor.mark
    let lexer ← lexer.dropKey
    let lexer := lexer.setSlot { possible := true, required, number, mark }
    let lexer := lexer.forget number
    return { lexer with slotOf := (number, lexer.slots.length - 1) :: lexer.slotOf }
  else return lexer

/-- Opens a block collection at a column that is deeper than the current one. Its token is put in
front of the given token number, or at the end. -/
def rollIndent (lexer : Lexer) (column : Nat) (number : Option Nat) (kind : TokenKind)
    (mark : Mark) : Except Fault Lexer :=
  if lexer.flow then .ok lexer
  else if lexer.indent < column then
    let lexer := { lexer with indents := lexer.indent :: lexer.indents, indent := column }
    if lexer.indents.length > 10000 then
      .error (.lexical .tooDeep lexer.slot.mark lexer.cursor.mark)
    else
      let token : Token := { kind, start := mark, stop := mark }
      .ok (match number with
        | some number => lexer.insertAt number token
        | none => lexer.push token)
  else .ok lexer

/-- Closes the block collections that are indented deeper than `column`. -/
def unrollIndent (column : Int) (mark : Mark) (lexer : Lexer) : Lexer :=
  if lexer.flow then lexer
  else close lexer.indents lexer
where
  close : List Int → Lexer → Lexer
    | [], lexer => lexer
    | outer :: rest, lexer =>
      if lexer.indent > column then
        close rest
          { lexer.push { kind := .blockEnd, start := mark, stop := mark } with
            indent := outer, indents := rest }
      else lexer

/-! ### The space between tokens -/

inductive Gap where
  | space
  | comment
  | toComment
deriving Repr, DecidableEq

/-- A comment follows within `budget` characters of blanks and breaks. -/
def commentAhead : Nat → List Char → Bool
  | 0, _ => false
  | _, [] => false
  | budget + 1, c :: rest =>
    c == '#' || ((isBlank c || c == '\n' || c == '\r') && commentAhead budget rest)

/-- Passes blanks, breaks and comments. In block context a break allows a key, and tabs are passed
only where no key may begin. Comments on consecutive lines are passed together. -/
def passGap (flow : Bool) : List Char → Gap → Bool → Mark → Nat → Bool × Cursor
  | [], _, allowed, mark, newlines => (allowed, { rest := [], mark, newlines })
  | '\r' :: '\n' :: rest, gap, allowed, mark, newlines =>
    let next : Gap :=
      if gap == .toComment || (gap == .comment && commentAhead 511 ('\n' :: rest)) then .toComment
      else .space
    passGap flow rest next (allowed || (next == .space && !flow)) (mark.nextLine 2) (newlines + 1)
  | c :: rest, gap, allowed, mark, newlines =>
    if isBreak c then
      let next : Gap :=
        if gap == .toComment ||
            (gap == .comment && (c == '\n' || c == '\r') && commentAhead 511 rest) then .toComment
        else .space
      passGap flow rest next (allowed || (next == .space && !flow)) (mark.nextLine 1) (newlines + 1)
    else
      let pass (gap : Gap) :=
        passGap flow rest gap allowed (mark.advance 1) (if isBlank c then newlines else 0)
      match gap with
      | .comment => pass .comment
      | .toComment => if c == '#' then pass .comment else pass .toComment
      | .space =>
        if c == ' ' || (c == '\t' && (flow || !allowed)) then pass .space
        else if c == '#' then pass .comment
        else (allowed, { rest := c :: rest, mark, newlines })

/-! ### One token -/

/-- Reads the token of `width` characters at the cursor. -/
def take (lexer : Lexer) (kind : TokenKind) (width : Nat) : Lexer :=
  let start := lexer.cursor.mark
  let cursor := lexer.cursor.skipMany width
  { lexer with cursor, queue := lexer.queue ++ [{ kind, start, stop := cursor.mark }] }

/-- Adds a token that lies between the lexer's cursor and `cursor`. -/
def takeTo (lexer : Lexer) (kind : TokenKind) (cursor : Cursor) : Lexer :=
  { lexer with
    cursor, queue := lexer.queue ++ [{ kind, start := lexer.cursor.mark, stop := cursor.mark }] }

def takeStreamStart (lexer : Lexer) : Lexer :=
  { lexer with slots := [{}], keyAllowed := true, started := true }.take .streamStart 0

def takeStreamEnd (lexer : Lexer) : Except Fault Lexer := do
  let mark := lexer.cursor.mark
  let mark := if mark.column = 0 then mark else { mark with column := 0, line := mark.line + 1 }
  let lexer := { lexer with cursor := { lexer.cursor with mark } }
  let lexer ← (lexer.unrollIndent (-1) mark).dropKey
  return { lexer with keyAllowed := false }.take .streamEnd 0

/-- Ends all block collections in front of a directive or a document mark. -/
def leaveDocument (lexer : Lexer) : Except Fault Lexer := do
  let lexer ← (lexer.unrollIndent (-1) lexer.cursor.mark).dropKey
  return { lexer with keyAllowed := false }

def takeFlowStart (lexer : Lexer) (kind : TokenKind) : Except Fault Lexer := do
  let lexer ← lexer.saveKey
  let slot : KeySlot := { number := lexer.nextNumber, mark := lexer.cursor.mark }
  let lexer := { lexer with slots := slot :: lexer.slots }
  if lexer.slots.length > 10001 then
    throw (.lexical .tooDeep slot.mark lexer.cursor.mark)
  return { lexer with keyAllowed := true }.take kind 1

def takeFlowEnd (lexer : Lexer) (kind : TokenKind) : Except Fault Lexer := do
  let lexer ← lexer.dropKey
  let lexer :=
    if lexer.flow then { lexer.forget lexer.slot.number with slots := lexer.slots.tail } else lexer
  return { lexer with keyAllowed := false }.take kind 1

def takeFlowEntry (lexer : Lexer) : Except Fault Lexer := do
  let lexer ← lexer.dropKey
  return { lexer with keyAllowed := true }.take .flowEntry 1

def takeBlockEntry (lexer : Lexer) : Except Fault Lexer := do
  let mark := lexer.cursor.mark
  if !lexer.flow && !lexer.keyAllowed then throw (.lexical .entryNotAllowed mark mark)
  let lexer ← lexer.rollIndent mark.column none .blockSequenceStart mark
  let lexer ← lexer.dropKey
  return { lexer with keyAllowed := true }.take .blockEntry 1

def takeKey (lexer : Lexer) : Except Fault Lexer := do
  let mark := lexer.cursor.mark
  if !lexer.flow && !lexer.keyAllowed then throw (.lexical .keyNotAllowed mark mark)
  let lexer ← lexer.rollIndent mark.column none .blockMappingStart mark
  let lexer ← lexer.dropKey
  return { lexer with keyAllowed := !lexer.flow }.take .key 1

def takeValue (lexer : Lexer) : Except Fault Lexer := do
  let mark := lexer.cursor.mark
  let (valid, lexer) ← lexer.checkSlot (lexer.slots.length - 1)
  if valid then
    let slot := lexer.slot
    let lexer := lexer.insertAt slot.number { kind := .key, start := slot.mark, stop := slot.mark }
    let lexer ← lexer.rollIndent slot.mark.column (some slot.number) .blockMappingStart slot.mark
    let lexer := (lexer.setSlot { slot with possible := false }).forget slot.number
    return { lexer with keyAllowed := false }.take .value 1
  else
    if !lexer.flow && !lexer.keyAllowed then throw (.lexical .valueNotAllowed mark mark)
    let lexer ← lexer.rollIndent mark.column none .blockMappingStart mark
    return { lexer with keyAllowed := !lexer.flow }.take .value 1

/-- A token that may be a key and after which none may begin. -/
def takeNamed (lexer : Lexer) (read : Cursor → Except Fault (TokenKind × Cursor)) :
    Except Fault Lexer := do
  let lexer ← lexer.saveKey
  let lexer := { lexer with keyAllowed := false }
  let (kind, cursor) ← read lexer.cursor
  return lexer.takeTo kind cursor

def takeBlockScalar (lexer : Lexer) (literal : Bool) : Except Fault Lexer := do
  let lexer ← lexer.dropKey
  let (text, cursor) ← blockScalar literal lexer.indent lexer.cursor
  return { lexer with keyAllowed := true }.takeTo (.scalar text false) cursor

def takePlain (lexer : Lexer) : Except Fault Lexer := do
  let lexer ← lexer.saveKey
  let (text, broken, cursor) ← plainScalar lexer.flow lexer.indent lexer.cursor
  return { lexer with keyAllowed := broken }.takeTo (.scalar text true) cursor

/-- A plain scalar may begin with any character that is no indicator, and with `-`, `?` or `:` if a
character follows that rules the indicator out. -/
def startsPlain (flow : Bool) (c : Char) (rest : List Char) : Bool :=
  let indicator :=
    ['-', '?', ':', ',', '[', ']', '\x7b', '\x7d', '#', '&', '*', '!', '|', '>', '\x27', '\x22',
      '%', '@', '\x60']
  !(isBlank c || isBreak c || indicator.contains c)
    || (c == '-' && !(rest.head?.any isBlank))
    || (!flow && (c == '?' || c == ':') && !blankAhead rest)

/-- Reads the token that the cursor stands at. -/
def takeToken (lexer : Lexer) (c : Char) (rest : List Char) : Except Fault Lexer :=
  if c == '[' then lexer.takeFlowStart .flowSequenceStart
  else if c == '\x7b' then lexer.takeFlowStart .flowMappingStart
  else if c == ']' then lexer.takeFlowEnd .flowSequenceEnd
  else if c == '\x7d' then lexer.takeFlowEnd .flowMappingEnd
  else if c == ',' then lexer.takeFlowEntry
  else if c == '-' && blankAhead rest then lexer.takeBlockEntry
  else if c == '?' && (lexer.flow || blankAhead rest) then lexer.takeKey
  else if c == ':' && (lexer.flow || blankAhead rest) then lexer.takeValue
  else if c == '*' then
    lexer.takeNamed fun cursor => do
      let (name, after) ← anchorName cursor
      return (.reference name, after)
  else if c == '&' then
    lexer.takeNamed fun cursor => do
      let (name, after) ← anchorName cursor
      return (.anchor name, after)
  else if c == '!' then lexer.takeNamed tagToken
  else if c == '|' && !lexer.flow then lexer.takeBlockScalar true
  else if c == '>' && !lexer.flow then lexer.takeBlockScalar false
  else if c == '\x27' || c == '\x22' then
    lexer.takeNamed fun cursor => do
      let (text, after) ← quotedScalar (c == '\x27') cursor
      return (.scalar text false, after)
  else if startsPlain lexer.flow c rest then lexer.takePlain
  else .error (.lexical .cannotStartToken lexer.cursor.mark lexer.cursor.mark)

/-- Reads up to the next token and reads that token. A comment on the same line belongs to the
token, unless it is a dash. -/
def readToken (lexer : Lexer) : Except Fault Lexer := do
  if !lexer.started then return lexer.takeStreamStart
  let before := lexer.cursor.mark
  let (allowed, cursor) := passGap lexer.flow lexer.cursor.rest .space lexer.keyAllowed
    lexer.cursor.mark lexer.cursor.newlines
  let lexer := { lexer with cursor, keyAllowed := allowed }
  let lexer := lexer.unrollIndent cursor.mark.column before
  match cursor.rest with
  | [] => lexer.takeStreamEnd
  | c :: rest =>
    if cursor.mark.column = 0 && c == '%' then
      let lexer ← lexer.leaveDocument
      let (kind, cursor) ← directiveToken lexer.cursor
      return lexer.takeTo kind cursor
    else if cursor.mark.column = 0 && documentMarkAhead cursor.rest then
      let lexer ← lexer.leaveDocument
      return lexer.take (if c == '-' then .documentStart else .documentEnd) 3
    else
      let lexer ← lexer.takeToken c rest
      match lexer.queue.getLast? with
      | some { kind := .blockEntry, .. } => return lexer
      | _ => return { lexer with cursor := lexer.cursor.skipLineComment }

/-- Reads one token more; where the readable text ends too early the unreadable character is at
fault. -/
def readMore (lexer : Lexer) : Except Fault Lexer :=
  match lexer.readToken with
  | .ok next =>
    if next.truncated && next.cursor.rest.isEmpty then .error { problem := .controlCharacter }
    else .ok next
  | .error fault =>
    if lexer.truncated && fault.offset ≥ lexer.cursor.mark.index + lexer.cursor.rest.length then
      .error { problem := .controlCharacter }
    else .error fault

/-- The first token of the queue is final: two more stand behind it and it begins no possible
key. -/
def settled (lexer : Lexer) : Except Fault (Bool × Lexer) :=
  if lexer.queue.length > 2 then
    match lexer.slotOf.lookup lexer.taken with
    | none => .ok (true, lexer)
    | some height => do
      let (pending, lexer) ← lexer.checkSlot height
      return (!pending, lexer)
  else .ok (false, lexer)

/-- Reads until the first token of the queue is final. -/
def fill : Nat → Lexer → Except Fault Lexer
  | 0, lexer => .ok lexer
  | fuel + 1, lexer => do
    let (done, lexer) ← lexer.settled
    if done then return lexer
    else fill fuel (← lexer.readMore)

/-- The next token, which stays in the queue. Each token read passes a character, up to the end of
the text, which is read at most three times. -/
def peek (lexer : Lexer) : Except Fault (Token × Lexer) := do
  let lexer ← lexer.fill (lexer.cursor.rest.length + 5)
  match lexer.queue with
  | token :: _ => return (token, lexer)
  | [] => throw { problem := .exhausted }

/-- Hands out the next token. -/
def drop (lexer : Lexer) : Lexer :=
  { lexer with queue := lexer.queue.tail, taken := lexer.taken + 1 }

end Lexer

/-- Characters that may stand in a text. -/
def isReadable (c : Char) : Bool :=
  c == '\t' || c == '\n' || c == '\r' || (' ' ≤ c && c ≤ '~') || c == '\u0085'
    || (0xa0 ≤ c.toNat && c.toNat ≤ 0xfffd) || 0x10000 ≤ c.toNat

/-- The readable front of a text. Text is read in blocks of 512 octets that hold whole characters;
the block with the first unreadable character is not read at all. -/
def readableFront (offset block : Nat) (whole kept : List Char) : List Char → List Char × Bool
  | [] => (whole.reverse, false)
  | c :: rest =>
    let width := c.utf8Size
    let fresh := block + 512 < offset + width
    let kept := if fresh then whole else kept
    if isReadable c then
      readableFront (offset + width) (if fresh then offset else block) (c :: whole) kept rest
    else (kept.reverse, true)

/-- The token stream of a text. A byte order mark in front is no part of the text. -/
def Lexer.ofText (text : String) : Lexer :=
  let (chars, truncated) :=
    match text.toList with
    | '\ufeff' :: rest => readableFront 3 0 [] [] rest
    | [] => (['\n'], false)
    | chars => readableFront 0 0 [] [] chars
  { cursor := { rest := chars }, truncated }

end FlowSpec.Yaml
