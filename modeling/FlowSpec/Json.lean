import FlowSpec.Text.Quoted

/-!
JSON values and their compact text. Members keep their order. Angle brackets, ampersands and the two
Unicode line separators are escaped, so that the text can stand inside markup and scripts.
-/

set_option autoImplicit false

namespace FlowSpec

inductive Json where
  | null
  | bool (value : Bool)
  | int (value : Int)
  | decimal (literal : String)
  | text (value : String)
  | list (items : List Json)
  | object (members : List (String × Json))
deriving Repr, Inhabited

namespace Json

def escapeChar (c : Char) : List Char :=
  match c with
  | '\x22' => ['\\', '\x22']
  | '\\' => ['\\', '\\']
  | '\n' => ['\\', 'n']
  | '\r' => ['\\', 'r']
  | '\t' => ['\\', 't']
  | _ =>
    if c < ' ' || c == '<' || c == '>' || c == '&' || c == '\u2028' || c == '\u2029' then
      '\\' :: 'u' :: Text.hexDigits 4 c.toNat
    else [c]

def encodeText (value : String) : String :=
  String.ofList ('\x22' :: value.toList.flatMap escapeChar ++ ['\x22'])

mutual

/-- The text without any blanks. -/
def compact : Json → String
  | null => "null"
  | bool true => "true"
  | bool false => "false"
  | int value => toString value
  | decimal literal => literal
  | text value => encodeText value
  | list [] => "[]"
  | list (item :: rest) => "[" ++ compact item ++ compactItems rest ++ "]"
  | object [] => "\x7b\x7d"
  | object ((name, value) :: rest) =>
    "\x7b" ++ encodeText name ++ ":" ++ compact value ++ compactMembers rest ++ "\x7d"

def compactItems : List Json → String
  | [] => ""
  | item :: rest => "," ++ compact item ++ compactItems rest

def compactMembers : List (String × Json) → String
  | [] => ""
  | (name, value) :: rest => "," ++ encodeText name ++ ":" ++ compact value ++ compactMembers rest

end

/-- A new line at a depth of nesting, two blanks a level. -/
def lineBreak (depth : Nat) : String := "\n" ++ String.ofList (List.replicate (2 * depth) ' ')

mutual

/-- The text with an item or member on every line. -/
def indented (depth : Nat) : Json → String
  | list (item :: rest) =>
    "[" ++ lineBreak (depth + 1) ++ indented (depth + 1) item ++ indentedItems (depth + 1) rest
      ++ lineBreak depth ++ "]"
  | object ((name, value) :: rest) =>
    "\x7b" ++ lineBreak (depth + 1) ++ encodeText name ++ ": " ++ indented (depth + 1) value
      ++ indentedMembers (depth + 1) rest ++ lineBreak depth ++ "\x7d"
  | other => compact other

def indentedItems (depth : Nat) : List Json → String
  | [] => ""
  | item :: rest => "," ++ lineBreak depth ++ indented depth item ++ indentedItems depth rest

def indentedMembers (depth : Nat) : List (String × Json) → String
  | [] => ""
  | (name, value) :: rest =>
    "," ++ lineBreak depth ++ encodeText name ++ ": " ++ indented depth value
      ++ indentedMembers depth rest

end

/-! ### Members that may be left out -/

/-- A member that is always written. -/
def member (name : String) (value : Json) : List (String × Json) := [(name, value)]

def textUnlessEmpty (name value : String) : List (String × Json) :=
  if value.isEmpty then [] else [(name, text value)]

def flagIfSet (name : String) (value : Bool) : List (String × Json) :=
  if value then [(name, bool true)] else []

def listUnlessEmpty (name : String) (items : List Json) : List (String × Json) :=
  if items.isEmpty then [] else [(name, list items)]

def memberIfSome {α : Type} (name : String) (value : Option α) (encode : α → Json) :
    List (String × Json) :=
  match value with
  | some value => [(name, encode value)]
  | none => []

/-- A list, or null in place of an empty one. -/
def listOrNull (items : List Json) : Json := if items.isEmpty then null else list items

def texts (values : List String) : Json := list (values.map text)

end Json

end FlowSpec
