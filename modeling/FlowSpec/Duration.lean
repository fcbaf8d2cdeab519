import FlowSpec.Text.Number

/-!
Lengths of time written as numbers with units, such as `1h30m` or `0.5s`. A length is held in
nanoseconds and must fit a signed word of 64 bits. Fractions are computed in floating point.
-/

set_option autoImplicit false

namespace FlowSpec.Duration

inductive ParseError where
  | malformed
  | missingUnit
  | unknownUnit (unit : String)
deriving Repr, DecidableEq, Inhabited

/-- The wording of an error in `text`; `quote` shows texts. -/
def ParseError.message (quote : String → String) (text : String) : ParseError → String
  | malformed => "time: invalid duration " ++ quote text
  | missingUnit => "time: missing unit in duration " ++ quote text
  | unknownUnit unit => "time: unknown unit " ++ quote unit ++ " in duration " ++ quote text

/-- Units up to an hour, in nanoseconds. -/
def clockUnits : List (String × Nat) :=
  [("ns", 1), ("us", 1000), ("µs", 1000), ("μs", 1000), ("ms", 1000000), ("s", 1000000000),
    ("m", 60000000000), ("h", 3600000000000)]

/-- The clock's units with days and weeks. -/
def calendarUnits : List (String × Nat) :=
  clockUnits ++ [("d", 86400000000000), ("w", 604800000000000)]

/-- The digits of a fraction as far as they fit a word, and the power of ten they are parts of. -/
def fractionDigits : List Char → Nat → Float → Nat × Float
  | [], value, scale => (value, scale)
  | c :: rest, value, scale =>
    let next := value * 10 + (c.toNat - '0'.toNat)
    if value > (Word.half - 1) / 10 || next ≥ Word.half then (value, scale)
    else fractionDigits rest next (scale * 10)

/-- One number with its unit, in nanoseconds, and what follows. -/
def term (units : List (String × Nat)) (cs : List Char) : Except ParseError (Nat × List Char) := do
  let whole := cs.takeWhile Text.isDecimal
  let rest := cs.drop whole.length
  let value := Text.decimalValue whole
  if value ≥ Word.half then throw .malformed
  let (fraction, rest) := match rest with
    | '.' :: more => (more.takeWhile Text.isDecimal, more.dropWhile Text.isDecimal)
    | _ => ([], rest)
  if whole.isEmpty && fraction.isEmpty then throw .malformed
  let unit := rest.takeWhile fun c => c ≠ '.' && !Text.isDecimal c
  if unit.isEmpty then throw .missingUnit
  match units.lookup (String.ofList unit) with
  | none => throw (.unknownUnit (String.ofList unit))
  | some size =>
    if value > (Word.half - 1) / size then throw .malformed
    let (digits, scale) := fractionDigits fraction 0 1
    let part := if digits = 0 then 0
      else (Float.ofNat digits * (Float.ofNat size / scale)).toUInt64.toNat
    let total := value * size + part
    if total ≥ Word.half then throw .malformed
    return (total, rest.drop unit.length)

/-- The sum of terms; every term takes a character, so the text's length bounds them. -/
def sum (units : List (String × Nat)) : Nat → List Char → Nat → Except ParseError Nat
  | _, [], total => .ok total
  | 0, _, _ => .error .malformed
  | fuel + 1, cs, total => do
    let (value, rest) ← term units cs
    if total + value ≥ Word.half then throw .malformed
    sum units fuel rest (total + value)

/-- Whether a text has a minus sign, and its length in nanoseconds without it. -/
def parse (units : List (String × Nat)) (text : String) : Except ParseError (Bool × Nat) :=
  let (negative, cs) := match text.toList with
    | '-' :: rest => (true, rest)
    | '+' :: rest => (false, rest)
    | cs => (false, cs)
  match cs with
  | ['0'] => .ok (negative, 0)
  | [] => .error .malformed
  | _ => (negative, ·) <$> sum units cs.length cs 0

inductive Error where
  | malformed (text : String) (cause : ParseError)
  | negative (text : String)
deriving Repr, DecidableEq, Inhabited

def Error.message : Error → String
  | malformed text cause =>
    "invalid duration " ++ Text.quoted text ++ ": "
      ++ cause.message (fun s => "\x22" ++ s ++ "\x22") text
  | negative text => "invalid duration " ++ Text.quoted text ++ ": must not be negative"

/-- A length in whole milliseconds; lengths below zero are refused. -/
def milliseconds (text : String) : Except Error Nat :=
  match parse calendarUnits text with
  | .error cause => .error (.malformed text cause)
  | .ok (negative, nanoseconds) =>
    if negative && nanoseconds ≠ 0 then .error (.negative text)
    else .ok (nanoseconds / 1000000)

end FlowSpec.Duration
