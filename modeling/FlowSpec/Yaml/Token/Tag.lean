import FlowSpec.Yaml.Cursor
import FlowSpec.Yaml.Token
import FlowSpec.Yaml.Token.Scalar

/-! Anchors, aliases, tags and directives: the tokens that are made of names. -/

set_option autoImplicit false

namespace FlowSpec.Yaml

/-- The name behind `&` or `*`. -/
def anchorName (cursor : Cursor) : Except Fault (String × Cursor) :=
  let (name, after) := cursor.skip.takeWhile isWord
  let closed := blankAhead after.rest ||
    (match after.peek? with
      | some c =>
        c == '?' || c == ':' || c == ',' || c == ']' || c == '\x7d' || c == '%' || c == '@'
          || c == '\x60'
      | none => true)
  if name.isEmpty || !closed then .error (.lexical .expectedAlphanumeric cursor.mark after.mark)
  else .ok (String.ofList name, after)

def isTagChar (c : Char) : Bool :=
  isWord c ||
    [';', '/', '?', ':', '@', '&', '=', '+', '$', ',', '.', '!', '~', '*', '\x27', '(', ')',
    '[', ']', '%'].contains c

/-- How many octets the UTF-8 form takes that begins with `octet`; zero for an octet that begins
none. -/
def octetCount (octet : Nat) : Nat :=
  if octet < 0x80 then 1
  else if octet / 32 = 6 then 2
  else if octet / 16 = 14 then 3
  else if octet / 8 = 30 then 4
  else 0

/-- The reader of a tag's text: octets written as `%xx` are collected in `octets`, and `missing` of
them are still to come for the character begun. -/
def readTagText (start : Mark) :
    List Char → Nat → Nat → Mark → ByteArray → Except Fault (ByteArray × Mark × List Char)
  | [], _, missing, mark, octets =>
    if missing > 0 then .error (.lexical .expectedEscapedOctet start mark)
      else .ok (octets, mark, [])
  | _ :: rest, pending + 1, missing, mark, octets =>
    readTagText start rest pending missing mark octets
  | c :: rest, 0, missing, mark, octets =>
    if c == '%' then
      match hexNumber? 2 rest with
      | none => .error (.lexical .expectedEscapedOctet start mark)
      | some octet =>
        if missing = 0 then
          if octetCount octet = 0 then .error (.lexical .wrongLeadingOctet start mark)
          else readTagText start rest 2 (octetCount octet - 1) (mark.advance 3)
            (octets.push octet.toUInt8)
        else if octet / 64 ≠ 2 then .error (.lexical .wrongTrailingOctet start mark)
        else readTagText start rest 2 (missing - 1) (mark.advance 3) (octets.push octet.toUInt8)
    else if missing > 0 then .error (.lexical .expectedEscapedOctet start mark)
    else if isTagChar c then
      readTagText start rest 0 0 (mark.advance 1) (octets ++ (toString c).toUTF8)
    else .ok (octets, mark, c :: rest)

/-- The text of a tag behind its handle. `head` is what was taken for a handle and is none; its mark
is dropped. -/
def tagText (start : Mark) (head : List Char) (cursor : Cursor) :
    Except Fault (String × Cursor) := do
  let (octets, mark, rest) ← readTagText start cursor.rest 0 0 cursor.mark
    (String.ofList (head.drop 1)).toUTF8
  if head.isEmpty && mark.index == cursor.mark.index then
    throw (.lexical .expectedTagText start mark)
  return ((String.fromUTF8? octets).getD "", { rest, mark, newlines := 0 })

/-- A tag handle: a mark, and word characters with a second mark if there is one. -/
def tagHandle (directive : Bool) (start : Mark) (cursor : Cursor) :
    Except Fault (List Char × Cursor) :=
  if cursor.peek? != some '!' then .error (.lexical .expectedTagMark start cursor.mark)
  else
    let (name, after) := cursor.skip.takeWhile isWord
    if after.peek? == some '!' then .ok ('!' :: name ++ ['!'], after.skip)
    else if directive && !name.isEmpty then .error (.lexical .expectedTagMark start after.mark)
    else .ok ('!' :: name, after)

/-- A tag as handle and suffix. The tag `!` alone has an empty handle and itself as suffix. -/
def tagToken (cursor : Cursor) : Except Fault (TokenKind × Cursor) := do
  let start := cursor.mark
  let (kind, cursor) ←
    if cursor.rest.drop 1 |>.head? |> (· == some '<') then do
      let (suffix, after) ← tagText start [] cursor.skip.skip
      if after.peek? != some '>' then throw (.lexical .expectedTagClose start after.mark)
      pure (TokenKind.tag "" suffix, after.skip)
    else do
      let (handle, after) ← tagHandle false start cursor
      if handle.length > 1 && handle.getLast? == some '!' then
        let (suffix, after) ← tagText start [] after
        pure (TokenKind.tag (String.ofList handle) suffix, after)
      else
        let (suffix, after) ← tagText start handle after
        if suffix.isEmpty then pure (TokenKind.tag "" (String.ofList handle), after)
        else pure (TokenKind.tag "!" suffix, after)
  if !blankAhead cursor.rest then throw (.lexical .expectedBlankOrBreak start cursor.mark)
  return (kind, cursor)

/-- A version number of at most two digits. -/
def versionNumber (start : Mark) (cursor : Cursor) : Except Fault (Nat × Cursor) :=
  let (digits, after) := cursor.takeWhile Char.isDigit
  if digits.length > 2 then
    .error (.lexical .longVersionNumber start (cursor.mark.advance 2))
  else if digits.isEmpty then .error (.lexical .expectedVersionNumber start after.mark)
  else .ok (digits.foldl (fun n c => n * 10 + (c.toNat - '0'.toNat)) 0, after)

/-- A directive line; the cursor stands at its percent sign. -/
def directiveToken (cursor : Cursor) : Except Fault (TokenKind × Cursor) := do
  let start := cursor.mark
  let (name, cursor) := cursor.skip.takeWhile isWord
  if name.isEmpty then throw (.lexical .expectedDirectiveName start cursor.mark)
  if !blankAhead cursor.rest then throw (.lexical .nonAlphabetical start cursor.mark)
  let (kind, cursor) ←
    if name == ['Y', 'A', 'M', 'L'] then do
      let (major, cursor) ← versionNumber start cursor.skipBlanks
      if cursor.peek? != some '.' then throw (.lexical .expectedDigitOrDot start cursor.mark)
      let (minor, cursor) ← versionNumber start cursor.skip
      pure (TokenKind.versionDirective major minor, cursor)
    else if name == ['T', 'A', 'G'] then do
      let (handle, cursor) ← tagHandle true start cursor.skipBlanks
      if !(cursor.peek?.any isBlank) then throw (.lexical .expectedBlank start cursor.mark)
      let (expansion, cursor) ← tagText start [] cursor.skipBlanks
      if !blankAhead cursor.rest then throw (.lexical .expectedBlankOrBreak start cursor.mark)
      pure (TokenKind.tagDirective (String.ofList handle) expansion, cursor)
    else throw (.lexical .unknownDirective start cursor.mark)
  let cursor := cursor.skipBlanks
  let cursor := if cursor.peek? == some '#' then cursor.skipToBreak else cursor
  if !breakAhead cursor.rest then throw (.lexical .expectedCommentOrBreak start cursor.mark)
  return (kind, cursor.skipLine)

end FlowSpec.Yaml
