import FlowSpec.Yaml.Fault

/-!
Reading positions in a YAML text. A cursor holds the characters that are left, the mark of the next
one, and how many line breaks were passed since the last character that is neither blank nor break.
-/

set_option autoImplicit false

namespace FlowSpec.Yaml

def isBlank (c : Char) : Bool := c == ' ' || c == '\t'

/-- Line feed, carriage return, next line, line separator and paragraph separator end a line. -/
def isBreak (c : Char) : Bool :=
  c == '\n' || c == '\r' || c == '\u0085' || c == '\u2028' || c == '\u2029'

/-- The characters of anchors, tag handles and directive names. -/
def isWord (c : Char) : Bool := c.isAlphanum || c == '_' || c == '-'

/-- The break that stands for `c` in the text of a scalar. -/
def normalBreak (c : Char) : Char :=
  if c == '\u2028' || c == '\u2029' then c else '\n'

/-- Nothing, a blank or a break comes next. -/
def blankAhead : List Char → Bool
  | [] => true
  | c :: _ => isBlank c || isBreak c

/-- Nothing or a break comes next. -/
def breakAhead : List Char → Bool
  | [] => true
  | c :: _ => isBreak c

/-- `---` or `...` followed by a blank, a break or nothing. -/
def documentMarkAhead : List Char → Bool
  | '-' :: '-' :: '-' :: rest => blankAhead rest
  | '.' :: '.' :: '.' :: rest => blankAhead rest
  | _ => false

def Mark.advance (mark : Mark) (count : Nat) : Mark :=
  { mark with index := mark.index + count, column := mark.column + count }

def Mark.nextLine (mark : Mark) (width : Nat) : Mark :=
  { index := mark.index + width, line := mark.line + 1, column := 0 }

structure Cursor where
  rest : List Char
  mark : Mark := {}
  newlines : Nat := 0
deriving Repr, Inhabited

namespace Cursor

def peek? (cursor : Cursor) : Option Char := cursor.rest.head?

/-- Passes one character that is no break. -/
def skip (cursor : Cursor) : Cursor :=
  match cursor.rest with
  | [] => cursor
  | c :: rest =>
    { rest, mark := cursor.mark.advance 1, newlines := if isBlank c then cursor.newlines else 0 }

def skipMany : Nat → Cursor → Cursor
  | 0, cursor => cursor
  | count + 1, cursor => skipMany count cursor.skip

/-- Passes one line break; a carriage return and a line feed are one break. -/
def skipLine (cursor : Cursor) : Cursor :=
  match cursor.rest with
  | '\r' :: '\n' :: rest =>
    { rest, mark := cursor.mark.nextLine 2, newlines := cursor.newlines + 1 }
  | c :: rest =>
    if isBreak c then { rest, mark := cursor.mark.nextLine 1, newlines := cursor.newlines + 1 }
    else cursor
  | [] => cursor

/-- Passes the characters that satisfy `p` and returns them; no break may satisfy `p`. -/
def takeWhile (p : Char → Bool) (cursor : Cursor) : List Char × Cursor :=
  let taken := cursor.rest.takeWhile p
  (taken, skipMany taken.length cursor)

def skipBlanks (cursor : Cursor) : Cursor := (cursor.takeWhile isBlank).2

def skipToBreak (cursor : Cursor) : Cursor := (cursor.takeWhile fun c => !isBreak c).2

/-- Passes a comment that follows on the same line after at most 511 blanks. -/
def skipLineComment (cursor : Cursor) : Cursor :=
  if cursor.newlines > 0 then cursor
  else
    let blanks := cursor.rest.takeWhile isBlank
    if blanks.length < 512 && (cursor.rest.drop blanks.length).head? == some '#' then
      cursor.skipToBreak
    else cursor

end Cursor

end FlowSpec.Yaml
