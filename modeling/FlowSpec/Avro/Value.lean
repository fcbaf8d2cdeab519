import FlowSpec.Json
import FlowSpec.Text.Number
import FlowSpec.Text.Order
import FlowSpec.Text.Split

/-!
Plain text of JSON values, for messages: items between brackets with blanks between them, members in
the order of their names, and numbers with as few digits as they need.
-/

set_option autoImplicit false

namespace FlowSpec.Avro

/-- A decimal number: its digits without zeros at either end, as a whole number times a power of
ten. -/
structure Decimal where
  isNegative : Bool
  digits : List Char
  exponent : Int
deriving Repr, DecidableEq, Inhabited

namespace Decimal

def normalize (isNegative : Bool) (digits : List Char) (exponent : Int) : Decimal :=
  let kept := (digits.dropWhile (· == '0')).reverse
  let significant := kept.dropWhile (· == '0')
  { isNegative := isNegative, digits := significant.reverse
    exponent := exponent + (kept.length - significant.length : Nat) }

def ofLiteral (literal : String) : Decimal :=
  let cs := literal.toList
  let isNegative := cs.head? == some '-'
  let body := cs.dropWhile (· == '-')
  let isMark (c : Char) : Bool := c == 'e' || c == 'E'
  let mantissa := body.takeWhile fun c => !isMark c
  let power := (body.dropWhile fun c => !isMark c).drop 1
  let whole := mantissa.takeWhile (· != '.')
  let fraction := (mantissa.dropWhile (· != '.')).drop 1
  let size : Int := Text.decimalValue (power.filter Text.isDecimal)
  let exponent := if power.head? == some '-' then -size else size
  normalize isNegative (whole ++ fraction) (exponent - fraction.length)

/-- The power of ten of the first digit. -/
def magnitude (number : Decimal) : Int := number.exponent + number.digits.length - 1

/-- At least two digits. -/
def twoDigits (n : Nat) : String := if n < 10 then "0" ++ toString n else toString n

def unsigned (number : Decimal) : String :=
  let magnitude := number.magnitude
  match number.digits with
  | [] => "0"
  | first :: rest =>
    if magnitude < -4 || magnitude ≥ 6 then
      String.ofList (first :: if rest.isEmpty then [] else '.' :: rest)
        ++ (if magnitude < 0 then "e-" else "e+") ++ twoDigits magnitude.natAbs
    else if magnitude < 0 then
      "0." ++ String.ofList (List.replicate (magnitude.natAbs - 1) '0' ++ number.digits)
    else if number.exponent ≥ 0 then
      String.ofList (number.digits ++ List.replicate number.exponent.toNat '0')
    else
      let whole := magnitude.toNat + 1
      String.ofList (number.digits.take whole ++ '.' :: number.digits.drop whole)

/-- Plain digits, or a power of ten for numbers that are small or large. -/
def text (number : Decimal) : String :=
  if number.isNegative then "-" ++ number.unsigned else number.unsigned

end Decimal

mutual

/-- The plain text of a value. -/
def shown : Json → String
  | .null => "<nil>"
  | .bool true => "true"
  | .bool false => "false"
  | .int value => (Decimal.ofLiteral (toString value)).text
  | .decimal literal => (Decimal.ofLiteral literal).text
  | .text value => value
  | .list items => "[" ++ Text.join " " (shownItems items) ++ "]"
  | .object members =>
    "map[" ++ Text.join " " ((Text.sortByName Prod.fst (shownMembers members)).map fun member =>
      member.1 ++ ":" ++ member.2) ++ "]"

def shownItems : List Json → List String
  | [] => []
  | item :: rest => shown item :: shownItems rest

def shownMembers : List (String × Json) → List (String × String)
  | [] => []
  | (name, value) :: rest => (name, shown value) :: shownMembers rest

end

end FlowSpec.Avro
