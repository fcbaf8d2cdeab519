import FlowSpec.Json
import FlowSpec.Text.Number

/-! Reading of JSON texts. A name that an object has twice keeps the later value. -/

set_option autoImplicit false

namespace FlowSpec.Json

def isBlank (c : Char) : Bool := c == ' ' || c == '\t' || c == '\n' || c == '\r'

def hexValue? (c : Char) : Option Nat :=
  if '0' ≤ c && c ≤ '9' then some (c.toNat - '0'.toNat)
  else if 'a' ≤ c && c ≤ 'f' then some (c.toNat - 'a'.toNat + 10)
  else if 'A' ≤ c && c ≤ 'F' then some (c.toNat - 'A'.toNat + 10)
  else none

/-- A unit of sixteen bits in four digits, and what follows. -/
def readUnit : List Char → Option (Nat × List Char)
  | a :: b :: c :: d :: rest => do
    let a ← hexValue? a
    let b ← hexValue? b
    let c ← hexValue? c
    let d ← hexValue? d
    return (((a * 16 + b) * 16 + c) * 16 + d, rest)
  | _ => none

/-- The character of a numbered escape. Halves of pairs that stand alone become replacement
marks. -/
def readEscapedUnit (cs : List Char) : Option (Char × List Char) := do
  let (unit, rest) ← readUnit cs
  if 0xd800 ≤ unit && unit < 0xdc00 then
    match rest with
    | '\\' :: 'u' :: more =>
      let (low, after) ← readUnit more
      if 0xdc00 ≤ low && low < 0xe000 then
        return (Char.ofNat (0x10000 + (unit - 0xd800) * 0x400 + (low - 0xdc00)), after)
      else return ('�', rest)
    | _ => return ('�', rest)
  else if 0xdc00 ≤ unit && unit < 0xe000 then return ('�', rest)
  else return (Char.ofNat unit, rest)

def simpleEscape? (c : Char) : Option Char :=
  match c with
  | '\x22' => some '\x22'
  | '\\' => some '\\'
  | '/' => some '/'
  | 'b' => some '\x08'
  | 'f' => some '\x0c'
  | 'n' => some '\n'
  | 'r' => some '\r'
  | 't' => some '\t'
  | _ => none

/-- The rest of a string behind its opening quote; every step takes a character, so their number
bounds `fuel`. -/
def readText : Nat → List Char → List Char → Option (String × List Char)
  | 0, _, _ => none
  | _ + 1, [], _ => none
  | _ + 1, '\x22' :: rest, read => some (String.ofList read.reverse, rest)
  | fuel + 1, '\\' :: 'u' :: rest, read => do
    let (c, rest) ← readEscapedUnit rest
    readText fuel rest (c :: read)
  | fuel + 1, '\\' :: c :: rest, read => do
    readText fuel rest ((← simpleEscape? c) :: read)
  | fuel + 1, c :: rest, read => if c < ' ' then none else readText fuel rest (c :: read)

/-- Digits, at least one. -/
def readDigits (cs : List Char) : Option (List Char × List Char) :=
  let digits := cs.takeWhile Text.isDecimal
  if digits.isEmpty then none else some (digits, cs.drop digits.length)

/-- The exponent of a number, as written and as a power of ten, and what follows. -/
def readExponent : List Char → Option (List Char × Int × List Char)
  | [] => some ([], 0, [])
  | e :: rest =>
    if e == 'e' || e == 'E' then do
      let (mark, body) := match rest with
        | '+' :: after => (['+'], after)
        | '-' :: after => (['-'], after)
        | _ => ([], rest)
      let (digits, after) ← readDigits body
      let power : Int := Text.decimalValue digits
      return (e :: mark ++ digits, if mark == ['-'] then -power else power, after)
    else some ([], 0, e :: rest)

/-- Whether digits times a power of ten make a number of more than 309 places, which no double
holds. -/
def isBeyondRange (digits : List Char) (power : Int) : Bool :=
  let significant := digits.dropWhile (· == '0')
  !significant.isEmpty && significant.length + power > 309

def readNumber (cs : List Char) : Option (Json × List Char) := do
  let (sign, body) := match cs with
    | '-' :: rest => (['-'], rest)
    | _ => ([], cs)
  let (whole, rest) ← readDigits body
  let (places, rest) ← match rest with
    | '.' :: more => readDigits more
    | _ => pure ([], rest)
  let (exponent, power, rest) ← readExponent rest
  if (whole.length > 1 && whole.head? = some '0')
      || isBeyondRange (whole ++ places) (power - places.length) then none
  else if places.isEmpty && exponent.isEmpty then
    let value : Int := Text.decimalValue whole
    return (.int (if sign.isEmpty then value else -value), rest)
  else
    let fraction := if places.isEmpty then [] else '.' :: places
    return (.decimal (String.ofList (sign ++ whole ++ fraction ++ exponent)), rest)

/-- Puts a member into an object. -/
def putMember (members : List (String × Json)) (name : String) (value : Json) :
    List (String × Json) :=
  if members.any (·.1 == name) then
    members.map fun member => if member.1 == name then (name, value) else member
  else members ++ [(name, value)]

mutual

/-- A value and what follows it; every step takes a character, so their number bounds `fuel`. -/
def readValue : Nat → List Char → Option (Json × List Char)
  | 0, _ => none
  | fuel + 1, cs =>
    match cs.dropWhile isBlank with
    | 'n' :: 'u' :: 'l' :: 'l' :: rest => some (.null, rest)
    | 't' :: 'r' :: 'u' :: 'e' :: rest => some (.bool true, rest)
    | 'f' :: 'a' :: 'l' :: 's' :: 'e' :: rest => some (.bool false, rest)
    | '\x22' :: rest => do
      let (value, rest) ← readText (rest.length + 1) rest []
      return (.text value, rest)
    | '[' :: rest =>
      match rest.dropWhile isBlank with
      | ']' :: after => some (.list [], after)
      | _ => readItems fuel rest []
    | '\x7b' :: rest =>
      match rest.dropWhile isBlank with
      | '\x7d' :: after => some (.object [], after)
      | _ => readMembers fuel rest []
    | other => readNumber other

def readItems : Nat → List Char → List Json → Option (Json × List Char)
  | 0, _, _ => none
  | fuel + 1, cs, items => do
    let (item, rest) ← readValue fuel cs
    match rest.dropWhile isBlank with
    | ',' :: more => readItems fuel more (items ++ [item])
    | ']' :: more => return (.list (items ++ [item]), more)
    | _ => none

def readMembers : Nat → List Char → List (String × Json) → Option (Json × List Char)
  | 0, _, _ => none
  | fuel + 1, cs, members => do
    match cs.dropWhile isBlank with
    | '\x22' :: rest =>
      let (name, rest) ← readText (rest.length + 1) rest []
      match rest.dropWhile isBlank with
      | ':' :: rest =>
        let (value, rest) ← readValue fuel rest
        let members := putMember members name value
        match rest.dropWhile isBlank with
        | ',' :: more => readMembers fuel more members
        | '\x7d' :: more => return (.object members, more)
        | _ => none
      | _ => none
    | _ => none

end

/-- The value that a text writes, with nothing behind it. -/
def read? (text : String) : Option Json := do
  let cs := text.toList
  let (value, rest) ← readValue (cs.length + 1) cs
  if rest.all isBlank then return value else none

mutual

/-- How deep lists and objects are nested. -/
def depth : Json → Nat
  | list items => depthOfItems items + 1
  | object members => depthOfMembers members + 1
  | _ => 0

def depthOfItems : List Json → Nat
  | [] => 0
  | item :: rest => max (depth item) (depthOfItems rest)

def depthOfMembers : List (String × Json) → Nat
  | [] => 0
  | (_, value) :: rest => max (depth value) (depthOfMembers rest)

end

/-- The member of an object under a name. -/
def member? (json : Json) (name : String) : Option Json :=
  match json with
  | object members => members.lookup name
  | _ => none

end FlowSpec.Json
