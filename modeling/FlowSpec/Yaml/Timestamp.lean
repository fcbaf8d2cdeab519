/-!
Dates and times as YAML writes them: `2001-12-14`, `2001-12-14T21:59:43.10-05:00`,
`2001-12-14 21:59:43`. Only the form matters here, with every field in its range.
-/

set_option autoImplicit false

namespace FlowSpec.Yaml.Timestamp

/-- A number of one or two digits at the front. -/
def shortNumber? : List Char → Option (Nat × List Char)
  | c :: d :: rest =>
    if !c.isDigit then none
    else if d.isDigit then some ((c.toNat - 48) * 10 + (d.toNat - 48), rest)
    else some (c.toNat - 48, d :: rest)
  | [c] => if c.isDigit then some (c.toNat - 48, []) else none
  | [] => none

def mark? (c : Char) : List Char → Option (List Char)
  | d :: rest => if c == d then some rest else none
  | [] => none

def daysIn (year month : Nat) : Nat :=
  if month = 2 then
    if year % 4 = 0 && (year % 100 ≠ 0 || year % 400 = 0) then 29 else 28
  else if month = 4 || month = 6 || month = 9 || month = 11 then 30
  else 31

/-- A year of four digits, a month and a day, parted by dashes. -/
def date? (cs : List Char) : Option (List Char) := do
  let digits := cs.takeWhile Char.isDigit
  guard (digits.length = 4)
  let year := digits.foldl (fun n c => n * 10 + (c.toNat - 48)) 0
  let rest ← mark? '-' (cs.drop 4)
  let (month, rest) ← shortNumber? rest
  guard (1 ≤ month && month ≤ 12)
  let rest ← mark? '-' rest
  let (day, rest) ← shortNumber? rest
  guard (1 ≤ day && day ≤ daysIn year month)
  return rest

/-- Hours, minutes and seconds, parted by colons, with a fraction if there is one. -/
def clock? (cs : List Char) : Option (List Char) := do
  let (hour, rest) ← shortNumber? cs
  guard (hour < 24)
  let rest ← mark? ':' rest
  let (minute, rest) ← shortNumber? rest
  guard (minute < 60)
  let rest ← mark? ':' rest
  let (second, rest) ← shortNumber? rest
  guard (second < 60)
  match rest with
  | c :: d :: more =>
    if (c == '.' || c == ',') && d.isDigit then return more.dropWhile Char.isDigit
    else return rest
  | _ => return rest

/-- `Z`, or a signed offset of two digits, a colon and two digits. -/
def zone? : List Char → Option (List Char)
  | 'Z' :: rest => some rest
  | sign :: a :: b :: ':' :: c :: d :: rest =>
    if (sign == '+' || sign == '-') && [a, b, c, d].all Char.isDigit
        && (a.toNat - 48) * 10 + (b.toNat - 48) ≤ 24
        && (c.toNat - 48) * 10 + (d.toNat - 48) ≤ 60 then
      some rest
    else none
  | _ => none

def isTimestamp (text : String) : Bool :=
  match date? text.toList with
  | none => false
  | some [] => true
  | some (c :: rest) =>
    if c == 'T' || c == 't' then (clock? rest >>= zone?) == some []
    else c == ' ' && clock? (rest.dropWhile (· == ' ')) == some []

end FlowSpec.Yaml.Timestamp
