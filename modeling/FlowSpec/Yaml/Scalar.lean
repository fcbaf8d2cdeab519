import FlowSpec.Word
import FlowSpec.Yaml.Fault
import FlowSpec.Yaml.Timestamp

/-!
What the text of a scalar stands for. Text without a tag is read by the core rules: null, truth
values, whole numbers in four bases, numbers with a fraction or an exponent, timestamps, and text
otherwise. A tag that is written out must fit what the text is.
-/

set_option autoImplicit false

namespace FlowSpec.Yaml

inductive Scalar where
  | null
  | bool (value : Bool)
  | int (value : Int)
  | float (value : Float)
  | timestamp
  | merge
  | text (value : String)
deriving Repr, Inhabited

namespace Scalar

def tag : Scalar → String
  | null => "!!null"
  | bool _ => "!!bool"
  | int _ => "!!int"
  | float _ => "!!float"
  | timestamp => "!!timestamp"
  | merge => "!!merge"
  | text _ => "!!str"

def digit? (base : Nat) (c : Char) : Option Nat :=
  let value :=
    if c.isDigit then some (c.toNat - 48)
    else if 'a' ≤ c && c ≤ 'z' then some (c.toNat - 97 + 10)
    else if 'A' ≤ c && c ≤ 'Z' then some (c.toNat - 65 + 10)
    else none
  value.bind fun n => if n < base then some n else none

/-- The number written by digits of a base. -/
def digits? (base : Nat) (cs : List Char) : Option Nat :=
  cs.foldl (fun n c => do return (← n) * base + (← digit? base c)) (some 0)

/-- A number whose base is told by its beginning: `0b`, `0o` or `0` for eight, `0x`, or ten. -/
def natural? : List Char → Option Nat
  | [] => none
  | '0' :: mark :: c :: rest =>
    if mark == 'b' || mark == 'B' then digits? 2 (c :: rest)
    else if mark == 'o' || mark == 'O' then digits? 8 (c :: rest)
    else if mark == 'x' || mark == 'X' then digits? 16 (c :: rest)
    else digits? 8 (mark :: c :: rest)
  | '0' :: rest => digits? 8 rest
  | cs => digits? 10 cs

/-- A signed number of 64 bits, or an unsigned one without sign. -/
def integer? (magnitude : List Char → Option Nat) (cs : List Char) : Option Int :=
  let signed (negative : Bool) (rest : List Char) : Option Int := do
    let n ← magnitude rest
    if negative then
      if n ≤ Word.half then some (-(n : Int)) else none
    else if n < Word.half then some n else none
  match cs with
  | '-' :: rest => signed true rest
  | '+' :: rest => signed false rest
  | _ => do
    let n ← magnitude cs
    if n < Word.count then some n else none

/-- Digits of a fixed base, at least one. -/
def inBase? (base : Nat) (cs : List Char) : Option Nat :=
  if cs.isEmpty then none else digits? base cs

/-- A whole number; underscores between digits were dropped. -/
def wholeNumber? (cs : List Char) : Option Int :=
  (integer? natural? cs).orElse fun _ =>
    match cs with
    | '0' :: 'b' :: rest => integer? (inBase? 2) rest
    | '-' :: '0' :: 'b' :: rest => integer? (inBase? 2) ('-' :: rest)
    | '0' :: 'o' :: rest => integer? (inBase? 8) rest
    | '-' :: '0' :: 'o' :: rest => integer? (inBase? 8) ('-' :: rest)
    | _ => none

/-- The decimal `digits · 10 ^ exponent`, rounded to the nearest number of 53 bits; none if it is
too large. -/
def decimal? (negative : Bool) (digits : Nat) (exponent : Int) : Option Float :=
  let size : Int := (Nat.toDigits 10 digits).length + exponent
  let value : Option Float :=
    if digits = 0 || size < -400 then some 0
    else if size > 400 then none
    else
      let value := if exponent < 0 then Float.ofScientific digits true exponent.natAbs
        else Float.ofScientific digits false exponent.natAbs
      if value.isInf then none else some value
  value.map fun v => if negative then -v else v

def number (cs : List Char) : Nat := cs.foldl (fun n c => n * 10 + (c.toNat - 48)) 0

/-- The exponent at the end of a number, or nothing. -/
def exponent? : List Char → Option Int
  | [] => some 0
  | c :: rest =>
    if c == 'e' || c == 'E' then
      let (negative, ds) := match rest with
        | '-' :: ds => (true, ds)
        | '+' :: ds => (false, ds)
        | ds => (false, ds)
      if ds.isEmpty || !ds.all Char.isDigit then none
      else
        -- more digits than any range needs are as good as a large exponent
        let ds := ds.dropWhile (· == '0')
        let n := if ds.length > 9 then 1000000000 else number ds
        some (if negative then -(n : Int) else n)
    else none

/-- A number with a point or an exponent. -/
def fraction? (cs : List Char) : Option Float := do
  let (negative, cs) := match cs with
    | '-' :: rest => (true, rest)
    | '+' :: rest => (false, rest)
    | _ => (false, cs)
  let whole := cs.takeWhile Char.isDigit
  let rest := cs.dropWhile Char.isDigit
  let (part, rest) := match rest with
    | '.' :: more => (more.takeWhile Char.isDigit, more.dropWhile Char.isDigit)
    | _ => ([], rest)
  guard (!(whole.isEmpty && part.isEmpty))
  let exponent ← exponent? rest
  decimal? negative (number (whole ++ part)) (exponent - part.length)

def infinity : Float := 1.0 / 0.0

/-- The words that stand for a value. -/
def word? : String → Option Scalar
  | "true" => some (bool true)
  | "True" => some (bool true)
  | "TRUE" => some (bool true)
  | "false" => some (bool false)
  | "False" => some (bool false)
  | "FALSE" => some (bool false)
  | "" => some null
  | "~" => some null
  | "null" => some null
  | "Null" => some null
  | "NULL" => some null
  | ".nan" => some (float (0.0 / 0.0))
  | ".NaN" => some (float (0.0 / 0.0))
  | ".NAN" => some (float (0.0 / 0.0))
  | ".inf" => some (float infinity)
  | ".Inf" => some (float infinity)
  | ".INF" => some (float infinity)
  | "+.inf" => some (float infinity)
  | "+.Inf" => some (float infinity)
  | "+.INF" => some (float infinity)
  | "-.inf" => some (float (-infinity))
  | "-.Inf" => some (float (-infinity))
  | "-.INF" => some (float (-infinity))
  | "<<" => some merge
  | _ => none

/-- What text stands for under a tag; an empty tag means that none was written. -/
def ofText (tag value : String) : Scalar :=
  if tag == "!!str" || tag == "!!binary" then text value
  else match word? value with
    | some word => word
    | none =>
      match value.toList with
      | [] => null
      | c :: _ =>
        if c == '.' then
          match fraction? value.toList with
          | some number => float number
          | none => text value
        else if c.isDigit || c == '+' || c == '-' then
          if (tag == "" || tag == "!!timestamp") && Timestamp.isTimestamp value then timestamp
          else
            let plain := value.toList.filter (· != '_')
            match wholeNumber? plain with
            | some number => int number
            | none => match fraction? plain with
              | some number => float number
              | none => text value
        else text value

/-- Reads text under a tag that was written or found before; the two must fit. -/
def resolve (tag value : String) : Except Problem Scalar :=
  let found := ofText tag value
  if tag == "" || tag == found.tag || tag == "!!str" || tag == "!!binary" then .ok found
  else match tag, found with
    | "!!float", int n => .ok (float (Float.ofInt n))
    | _, _ => .error (.wrongTag found.tag value tag)

end Scalar

end FlowSpec.Yaml
