import FlowSpec.Yaml.Cursor

/-!
The text of a scalar in its three notations: plain, quoted, and block. Each reader walks the
characters once and returns the text with the cursor behind it. Lines are folded as YAML folds them:
one break becomes a space, further breaks are kept.
-/

set_option autoImplicit false

namespace FlowSpec.Yaml

/-- What a reader of plain or quoted text carries: the text so far (last character first), the
blanks met since its last character, and the breaks met since. -/
structure Folding where
  mark : Mark
  newlines : Nat
  text : List Char := []
  blanks : List Char := []
  firstBreak : Option Char := none
  moreBreaks : List Char := []
  /-- A break was met since the last character of the text. -/
  broken : Bool := false
  /-- Blanks or breaks were passed and the next character starts a word. -/
  spaced : Bool := false
deriving Repr, Inhabited

namespace Folding

def cursor (st : Folding) (rest : List Char) : Cursor :=
  { rest, mark := st.mark, newlines := st.newlines }

/-- Passes a blank: it counts only while no break was met. -/
def blank (st : Folding) (c : Char) : Folding :=
  { st with
    mark := st.mark.advance 1
    blanks := if st.broken then st.blanks else c :: st.blanks
    spaced := true }

/-- Passes a break of `width` characters: the blanks before it are dropped. -/
def lineBreak (st : Folding) (c : Char) (width : Nat) : Folding :=
  let st := { st with mark := st.mark.nextLine width, newlines := st.newlines + 1, spaced := true }
  if st.broken then { st with moreBreaks := normalBreak c :: st.moreBreaks }
  else { st with blanks := [], firstBreak := some (normalBreak c), broken := true }

/-- Puts what the passed blanks and breaks stand for into the text. -/
def join (st : Folding) : Folding :=
  let text :=
    if st.broken then
      match st.firstBreak with
      | some '\n' => if st.moreBreaks.isEmpty then ' ' :: st.text else st.moreBreaks ++ st.text
      | some c => st.moreBreaks ++ c :: st.text
      | none => st.moreBreaks ++ st.text
    else st.blanks ++ st.text
  { st with
    text, blanks := [], firstBreak := none, moreBreaks := [], broken := false, spaced := false }

/-- Passes `width` characters that stand for `c`. -/
def push (st : Folding) (c : Char) (width : Nat) : Folding :=
  { st with mark := st.mark.advance width, newlines := 0, text := c :: st.text }

end Folding

/-! ### Plain text -/

/-- A plain scalar ends before a colon that is followed by a blank, and in a flow collection before
the characters that shape it. -/
def endsPlain (flow : Bool) : List Char → Bool
  | [] => true
  | ':' :: rest => blankAhead rest
  | c :: _ =>
    flow && (c == ',' || c == '?' || c == '[' || c == ']' || c == '\x7b' || c == '\x7d')

/-- The reader of a plain scalar. In block context a line that is indented less than `indent` ends
it. -/
def readPlain (flow : Bool) (indent : Int) (start : Mark) :
    List Char → Folding → Except Fault (Folding × List Char)
  | [], st => .ok (st, [])
  | '\r' :: '\n' :: rest, st => readPlain flow indent start rest (st.lineBreak '\n' 2)
  | c :: rest, st =>
    if isBlank c then
      if st.broken && (st.mark.column : Int) < indent && c == '\t' then
        .error (.lexical .tabInPlain start st.mark)
      else readPlain flow indent start rest (st.blank c)
    else if isBreak c then readPlain flow indent start rest (st.lineBreak c 1)
    else if st.spaced && !flow && (st.mark.column : Int) < indent then .ok (st, c :: rest)
    else if st.spaced && c == '#' then .ok (st, c :: rest)
    else if st.mark.column == 0 && documentMarkAhead (c :: rest) then .ok (st, c :: rest)
    else if endsPlain flow (c :: rest) then .ok (st, c :: rest)
    else readPlain flow indent start rest ((if st.spaced then st.join else st).push c 1)

/-- A plain scalar at the cursor, and whether it passed a line break at its end. -/
def plainScalar (flow : Bool) (indent : Int) (cursor : Cursor) :
    Except Fault (String × Bool × Cursor) := do
  let begin : Folding := { mark := cursor.mark, newlines := cursor.newlines }
  let (st, rest) ← readPlain flow (indent + 1) cursor.mark cursor.rest begin
  return (String.ofList st.text.reverse, st.broken, st.cursor rest)

/-! ### Quoted text -/

def hexDigit? (c : Char) : Option Nat :=
  if c.isDigit then some (c.toNat - '0'.toNat)
  else if 'a' ≤ c && c ≤ 'f' then some (c.toNat - 'a'.toNat + 10)
  else if 'A' ≤ c && c ≤ 'F' then some (c.toNat - 'A'.toNat + 10)
  else none

/-- The number written by exactly `count` hexadecimal digits at the front. -/
def hexNumber? : Nat → List Char → Option Nat
  | count, cs =>
    if count ≤ cs.length then
      (cs.take count).foldl (fun n c => do return (← n) * 16 + (← hexDigit? c)) (some 0)
    else none

/-- What a single-character escape stands for. -/
def shortEscape? : Char → Option Char
  | '0' => some '\x00'
  | 'a' => some '\x07'
  | 'b' => some '\x08'
  | 't' => some '\t'
  | '\t' => some '\t'
  | 'n' => some '\n'
  | 'v' => some '\x0b'
  | 'f' => some '\x0c'
  | 'r' => some '\r'
  | 'e' => some '\x1b'
  | ' ' => some ' '
  | '\x22' => some '\x22'
  | '\x27' => some '\x27'
  | '\\' => some '\\'
  | 'N' => some '\u0085'
  | '_' => some '\u00a0'
  | 'L' => some '\u2028'
  | 'P' => some '\u2029'
  | _ => none

/-- How many digits the escape of a code point takes. -/
def escapeWidth? : Char → Option Nat
  | 'x' => some 2
  | 'u' => some 4
  | 'U' => some 8
  | _ => none

/-- The reader of a quoted scalar behind its opening quote; `pending` counts the characters of an
escape that are still to be passed. -/
def readQuoted (single : Bool) (start : Mark) :
    List Char → Nat → Folding → Except Fault (Folding × List Char)
  | [], _, st => .error (.lexical .endInQuotes start st.mark)
  | _ :: rest, pending + 1, st => readQuoted single start rest pending st
  | '\r' :: '\n' :: rest, 0, st => readQuoted single start rest 0 (st.lineBreak '\n' 2)
  | c :: rest, 0, st =>
    if isBlank c then readQuoted single start rest 0 (st.blank c)
    else if isBreak c then readQuoted single start rest 0 (st.lineBreak c 1)
    else
      let st := if st.spaced then st.join else st
      if st.mark.column == 0 && documentMarkAhead (c :: rest) then
        .error (.lexical .documentMarkInQuotes start st.mark)
      else if single then
        if c == '\x27' then
          if rest.head? == some '\x27' then readQuoted single start rest 1 (st.push c 2)
          else .ok ({ st with mark := st.mark.advance 1, newlines := 0 }, rest)
        else readQuoted single start rest 0 (st.push c 1)
      else if c == '\x22' then .ok ({ st with mark := st.mark.advance 1, newlines := 0 }, rest)
      else if c == '\\' then
        match rest with
        | [] => .error (.lexical .unknownEscape start st.mark)
        | escape :: digits =>
          if isBreak escape then
            let wide := escape == '\r' && digits.head? == some '\n'
            let mark := (st.mark.advance 1).nextLine (if wide then 2 else 1)
            readQuoted single start (escape :: digits) (if wide then 2 else 1)
              { st with mark, newlines := 1, broken := true, spaced := true }
          else match shortEscape? escape with
            | some char => readQuoted single start (escape :: digits) 1 (st.push char 2)
            | none => match escapeWidth? escape with
              | none => .error (.lexical .unknownEscape start st.mark)
              | some width => match hexNumber? width digits with
                | none => .error (.lexical .expectedHexadecimal start (st.mark.advance 2))
                | some code =>
                  if (0xd800 ≤ code && code ≤ 0xdfff) || code > 0x10ffff then
                    .error (.lexical .invalidCodePoint start (st.mark.advance 2))
                  else readQuoted single start (escape :: digits) (width + 1)
                    (st.push (Char.ofNat code) (width + 2))
      else readQuoted single start rest 0 (st.push c 1)

/-- A quoted scalar; the cursor stands at its opening quote. -/
def quotedScalar (single : Bool) (cursor : Cursor) : Except Fault (String × Cursor) := do
  let opened := cursor.skip
  let (st, rest) ← readQuoted single cursor.mark opened.rest 0
    { mark := opened.mark, newlines := opened.newlines }
  return (String.ofList st.text.reverse, st.cursor rest)

/-! ### Block text -/

/-- What becomes of the breaks at the end of a block scalar. -/
inductive Chomping where
  | strip
  | clip
  | keep
deriving Repr, DecidableEq, Inhabited

structure BlockText where
  mark : Mark
  newlines : Nat
  /-- The indentation of the block; zero until it is known. -/
  indent : Nat
  widest : Nat := 0
  text : List Char := []
  lastBreak : Option Char := none
  moreBreaks : List Char := []
  /-- The last line began with a blank, so it is not folded. -/
  indented : Bool := false
  /-- Reading a line, as against the indentation before one. -/
  inLine : Bool := false
deriving Repr, Inhabited

namespace BlockText

def eatsIndent (st : BlockText) : Bool := st.indent == 0 || st.mark.column < st.indent

/-- Fixes the indentation once the first line with text is met. -/
def settle (parent : Int) (st : BlockText) : BlockText :=
  if st.indent == 0 then
    { st with indent := max (max (max st.widest st.mark.column) (parent + 1).toNat) 1 }
  else st

/-- Puts what stands between the last line and a line that begins with `c` into the text. -/
def joinLine (literal : Bool) (st : BlockText) (c : Char) : BlockText :=
  let breaks := st.lastBreak.toList
  let text :=
    if !literal && !st.indented && !isBlank c && st.lastBreak == some '\n' then
      if st.moreBreaks.isEmpty then ' ' :: st.text else st.text
    else breaks ++ st.text
  { st with
    text := st.moreBreaks ++ text, lastBreak := none, moreBreaks := [], indented := isBlank c
    inLine := true }

def passBreak (st : BlockText) (c : Char) (width : Nat) : BlockText :=
  let next := { st with mark := st.mark.nextLine width, newlines := st.newlines + 1 }
  if st.inLine then { next with lastBreak := some (normalBreak c), inLine := false, widest := 0 }
  else
    { next with
      moreBreaks := normalBreak c :: st.moreBreaks, widest := max st.widest st.mark.column }

def passChar (st : BlockText) (c : Char) : BlockText :=
  { st with
    mark := st.mark.advance 1, newlines := if isBlank c then st.newlines else 0
    text := c :: st.text }

end BlockText

/-- The reader of a block scalar behind its header line. -/
def readBlock (literal : Bool) (parent : Int) (start : Mark) :
    List Char → BlockText → Except Fault (BlockText × List Char)
  | [], st => .ok (st, [])
  | '\r' :: '\n' :: rest, st => readBlock literal parent start rest (st.passBreak '\n' 2)
  | c :: rest, st =>
    if isBreak c then readBlock literal parent start rest (st.passBreak c 1)
    else if st.inLine then readBlock literal parent start rest (st.passChar c)
    else if c == ' ' && st.eatsIndent then
      readBlock literal parent start rest { st with mark := st.mark.advance 1 }
    else if c == '\t' && st.eatsIndent then .error (.lexical .tabInIndentation start st.mark)
    else
      let st := st.settle parent
      if st.mark.column == st.indent then
        readBlock literal parent start rest ((st.joinLine literal c).passChar c)
      else .ok (st, c :: rest)

/-- The chomping and indentation indicators behind `|` or `>`, in either order. -/
def blockHeader (start : Mark) (cursor : Cursor) : Except Fault (Chomping × Nat × Cursor) :=
  let chomping (cursor : Cursor) : Chomping × Cursor :=
    match cursor.peek? with
    | some '+' => (.keep, cursor.skip)
    | some '-' => (.strip, cursor.skip)
    | _ => (.clip, cursor)
  let indentation (cursor : Cursor) : Except Fault (Nat × Cursor) :=
    match cursor.peek? with
    | some c =>
      if c == '0' then .error (.lexical .zeroIndentation start cursor.mark)
      else if c.isDigit then .ok (c.toNat - '0'.toNat, cursor.skip)
      else .ok (0, cursor)
    | none => .ok (0, cursor)
  let (chomp, cursor) := chomping cursor
  match indentation cursor with
  | .error fault => .error fault
  | .ok (width, cursor) =>
    if chomp == .clip && width != 0 then
      let (chomp, cursor) := chomping cursor
      .ok (chomp, width, cursor)
    else .ok (chomp, width, cursor)

/-- A block scalar; the cursor stands at its indicator and `parent` is the indentation around it. -/
def blockScalar (literal : Bool) (parent : Int) (cursor : Cursor) :
    Except Fault (String × Cursor) := do
  let start := cursor.mark
  let (chomp, width, cursor) ← blockHeader start cursor.skip
  let cursor := cursor.skipBlanks
  let cursor := if cursor.peek? == some '#' then cursor.skipToBreak else cursor
  if !breakAhead cursor.rest then
    throw (.lexical .expectedCommentOrBreak start cursor.mark)
  let cursor := cursor.skipLine
  let indent := if width == 0 then 0 else if parent ≥ 0 then parent.toNat + width else width
  let (st, rest) ← readBlock literal parent start cursor.rest
    { mark := cursor.mark, newlines := cursor.newlines, indent }
  let text := if chomp == .strip then st.text else st.lastBreak.toList ++ st.text
  let text := if chomp == .keep then st.moreBreaks ++ text else text
  return (String.ofList text.reverse, { rest, mark := st.mark, newlines := st.newlines })

end FlowSpec.Yaml
