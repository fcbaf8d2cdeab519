import FlowSpec.Text.Quoted
import FlowSpec.Word

/-! Whole numbers in text: ten digits, an optional sign, 64 bits, and what is said of other
texts. -/

set_option autoImplicit false

namespace FlowSpec.Text

inductive NumberError where
  | malformed
  | outOfRange
deriving Repr, DecidableEq, Inhabited

def NumberError.text : NumberError → String
  | malformed => "invalid syntax"
  | outOfRange => "value out of range"

/-- The number that decimal digits write. -/
def decimalValue (digits : List Char) : Nat :=
  digits.foldl (fun n c => n * 10 + (c.toNat - '0'.toNat)) 0

def isDecimal (c : Char) : Bool := '0' ≤ c && c ≤ '9'

/-- A number with a sign or without, in the range of signed words of 64 bits. -/
def readInt (text : List Char) : Except NumberError Int :=
  let (negative, digits) := match text with
    | '-' :: rest => (true, rest)
    | '+' :: rest => (false, rest)
    | _ => (false, text)
  if digits.isEmpty || !digits.all isDecimal then .error .malformed
  else
    let value := decimalValue digits
    if negative then
      if value ≤ Word.half then .ok (-(value : Int)) else .error .outOfRange
    else if value < Word.half then .ok value else .error .outOfRange

/-- How a failed reading is told; `reader` names the kind of reading. -/
def readingMessage (reader : String) (text : String) (error : NumberError) : String :=
  "strconv." ++ reader ++ ": parsing " ++ quoted text ++ ": " ++ error.text

end FlowSpec.Text
