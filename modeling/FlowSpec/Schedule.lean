import FlowSpec.Duration
import FlowSpec.Text.LetterCase
import FlowSpec.Text.Number
import FlowSpec.Text.Split

/-!
Schedules: named cron expressions. An expression has five fields, six with seconds in front, or is
one of the descriptors that begin with `@`. A field is a list of ranges, each with an optional step.
-/

set_option autoImplicit false

namespace FlowSpec

/-- A named cron trigger. -/
structure Schedule where
  name : String
  cron : String
deriving Repr, DecidableEq, Inhabited

namespace Schedule

inductive CronError where
  | empty
  | fieldCount (fields : List String)
  | number (text : String) (cause : Text.NumberError)
  | negative (text : String) (value : Int)
  | hyphens (expr : String)
  | slashes (expr : String)
  | belowMinimum (start least : Nat) (expr : String)
  | aboveMaximum (stop greatest : Nat) (expr : String)
  | inverted (start stop : Nat) (expr : String)
  | zeroStep (expr : String)
  | everyDuration (text length : String) (cause : Duration.ParseError)
  | descriptor (text : String)
deriving Repr, DecidableEq, Inhabited

/-- A text in quotes whose octets outside printable ASCII are numbered. -/
def octetQuoted (text : String) : String :=
  let octet (n : Nat) : List Char := '\\' :: 'x' :: Text.hexDigits 2 n
  let char (c : Char) : List Char :=
    if c < ' ' || c.toNat ≥ 0x80 then (toString c).toUTF8.toList.flatMap fun b => octet b.toNat
    else if c == '\x22' || c == '\\' then ['\\', c]
    else [c]
  String.ofList ('\x22' :: text.toList.flatMap char ++ ['\x22'])

def CronError.message : CronError → String
  | empty => "empty spec string"
  | fieldCount fields =>
    "expected 5 to 6 fields, found " ++ toString fields.length ++ ": ["
      ++ Text.join " " fields ++ "]"
  | number text cause =>
    "failed to parse int from " ++ text ++ ": " ++ Text.readingMessage "Atoi" text cause
  | negative text value => "negative number (" ++ toString value ++ ") not allowed: " ++ text
  | hyphens expr => "too many hyphens: " ++ expr
  | slashes expr => "too many slashes: " ++ expr
  | belowMinimum start least expr =>
    "beginning of range (" ++ toString start ++ ") below minimum (" ++
      toString least ++ "): " ++ expr
  | aboveMaximum stop greatest expr =>
    "end of range (" ++ toString stop ++ ") above maximum (" ++ toString greatest ++ "): " ++ expr
  | inverted start stop expr =>
    "beginning of range (" ++ toString start ++ ") beyond end of range (" ++ toString stop ++ "): "
      ++ expr
  | zeroStep expr => "step of range should be a positive number: " ++ expr
  | everyDuration text length cause =>
    "failed to parse duration " ++ text ++ ": " ++ cause.message octetQuoted length
  | descriptor text => "unrecognized descriptor: " ++ text

/-- The values a field may take, and the names that some of them have. -/
structure Bounds where
  least : Nat
  greatest : Nat
  names : List (String × Nat) := []

def monthNames : List (String × Nat) :=
  [("jan", 1), ("feb", 2), ("mar", 3), ("apr", 4), ("may", 5), ("jun", 6), ("jul", 7), ("aug", 8),
    ("sep", 9), ("oct", 10), ("nov", 11), ("dec", 12)]

def dayNames : List (String × Nat) :=
  [("sun", 0), ("mon", 1), ("tue", 2), ("wed", 3), ("thu", 4), ("fri", 5), ("sat", 6)]

/-- Seconds, minutes, hours, days of the month, months and days of the week. -/
def fieldBounds : List Bounds :=
  [⟨0, 59, []⟩, ⟨0, 59, []⟩, ⟨0, 23, []⟩, ⟨1, 31, []⟩, ⟨1, 12, monthNames⟩, ⟨0, 6, dayNames⟩]

def checkNumber (text : String) : Except CronError Nat :=
  match Text.readInt text.toList with
  | .error cause => .error (.number text cause)
  | .ok value => if value < 0 then .error (.negative text value) else .ok value.toNat

def checkNumberOrName (bounds : Bounds) (text : String) : Except CronError Nat :=
  match bounds.names.lookup (Text.lowered text) with
  | some value => .ok value
  | none => checkNumber text

/-- Checks `low-high/step` and its shorter forms. -/
def checkRange (bounds : Bounds) (expr : String) : Except CronError Unit := do
  let rangeAndStep := Text.split "/" expr
  let lowAndHigh := Text.split "-" (rangeAndStep.headD "")
  let low := lowAndHigh.headD ""
  let (start, stop) ←
    if low == "*" || low == "?" then pure (bounds.least, bounds.greatest)
    else do
      let start ← checkNumberOrName bounds low
      match lowAndHigh with
      | [_] => pure (start, start)
      | [_, high] => pure (start, ← checkNumberOrName bounds high)
      | _ => throw (.hyphens expr)
  let (stop, step) ← match rangeAndStep with
    | [_] => pure (stop, 1)
    | [_, step] => do
      let step ← checkNumber step
      pure (if lowAndHigh.length = 1 then bounds.greatest else stop, step)
    | _ => throw (.slashes expr)
  if start < bounds.least then throw (.belowMinimum start bounds.least expr)
  if stop > bounds.greatest then throw (.aboveMaximum stop bounds.greatest expr)
  if start > stop then throw (.inverted start stop expr)
  if step = 0 then throw (.zeroStep expr)

def checkField (bounds : Bounds) (field : String) : Except CronError Unit :=
  ((Text.runsAux (· == ',') field.toList []).map String.ofList).forM (checkRange bounds)

def descriptors : List String :=
  ["@yearly", "@annually", "@monthly", "@weekly", "@daily", "@midnight", "@hourly"]

def checkDescriptor (text : String) : Except CronError Unit :=
  if descriptors.contains text then .ok ()
  else match Text.dropFront? "@every ".toList text.toList with
    | some rest =>
      match Duration.parse Duration.clockUnits (String.ofList rest) with
      | .ok _ => .ok ()
      | .error cause => .error (.everyDuration text (String.ofList rest) cause)
    | none => .error (.descriptor text)

/-- Accepts expressions of five fields, and of six with seconds in front. -/
def checkCron (text : String) : Except CronError Unit :=
  match text.toList with
  | [] => .error .empty
  | '@' :: _ => checkDescriptor text
  | _ =>
    let fields := Text.words text
    if fields.length = 5 then
      (fieldBounds.tail.zip fields).forM fun (bounds, field) => checkField bounds field
    else if fields.length = 6 then
      (fieldBounds.zip fields).forM fun (bounds, field) => checkField bounds field
    else .error (.fieldCount fields)

/-- A schedule whose expression cannot be read. -/
structure Error where
  schedule : Schedule
  cause : CronError
deriving Repr, DecidableEq, Inhabited

def Error.message (error : Error) : String :=
  "invalid cron expression for schedule `" ++ error.schedule.name ++ "` ("
    ++ Text.quoted error.schedule.cron ++ "): " ++ error.cause.message

def validate (schedule : Schedule) : Except Error Unit :=
  (checkCron schedule.cron).mapError fun cause => { schedule, cause }

end Schedule

end FlowSpec
