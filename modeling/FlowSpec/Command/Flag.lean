import FlowSpec.Text.Boolean
import FlowSpec.Yaml.Scalar

/-!
Flags of a command. Flags come before other arguments, with one hyphen or two; a flag's value stands
behind an equals sign or is the next argument. Two hyphens alone end the flags.
-/

set_option autoImplicit false

namespace FlowSpec.Command

/-- What a flag's value must be. A switch is on without a value. -/
inductive FlagKind where
  | switch
  | text
  | number
deriving Repr, DecidableEq, Inhabited

/-- The flags that a command knows. -/
abbrev FlagTable := List (String × FlagKind)

/-- Flags with their values, the last first, and the arguments behind them. -/
structure Arguments where
  flags : List (String × String) := []
  rest : List String := []
deriving Repr, DecidableEq, Inhabited

/-- Underscores stand between digits, or between digits and the mark of their base. -/
def underscoresFit : Bool → List Char → Bool
  | _, [] => true
  | isBehindDigit, '_' :: rest => isBehindDigit && match rest with
    | [] => false
    | '_' :: _ => false
    | _ :: _ => underscoresFit false rest
  | _, _ :: rest => underscoresFit true rest

/-- The number that a text writes, in any base. -/
def number? (text : String) : Option Int :=
  let unsigned := match text.toList with
    | '-' :: rest => rest
    | '+' :: rest => rest
    | cs => cs
  if underscoresFit false unsigned then do
    let n ← Yaml.Scalar.integer? Yaml.Scalar.natural? (text.toList.filter (· ≠ '_'))
    if n < Word.half then some n else none
  else none

def FlagKind.accepts (kind : FlagKind) (value : String) : Bool :=
  match kind with
  | switch => (Text.readBool value).toBool
  | text => true
  | number => (number? value).isSome

/-- What an argument is: a flag with its value, if it has one, the end of the flags, or neither. -/
inductive Argument where
  | plain
  | flagsEnd
  | flag (name : String) (value : Option String)
  | malformed
deriving Repr, DecidableEq, Inhabited

/-- The name of a flag and the value behind an equals sign, which cannot come first. -/
def Argument.ofBody : List Char → Argument
  | [] => malformed
  | first :: rest =>
    if first == '-' || first == '=' then malformed
    else
      let name := String.ofList (first :: rest.takeWhile (· ≠ '='))
      match rest.dropWhile (· ≠ '=') with
      | [] => flag name none
      | _ :: value => flag name (some (String.ofList value))

def Argument.ofText (text : String) : Argument :=
  match text.toList with
  | ['-', '-'] => flagsEnd
  | '-' :: '-' :: body => ofBody body
  | '-' :: c :: body => ofBody (c :: body)
  | _ => plain

/-- Reads flags up to the first other argument; none if a flag is unknown or its value is missing or
wrong. -/
def parseFlags (table : FlagTable) : List String → List (String × String) → Option Arguments
  | [], flags => some { flags }
  | argument :: rest, flags =>
    match Argument.ofText argument with
    | .plain => some { flags, rest := argument :: rest }
    | .flagsEnd => some { flags, rest }
    | .malformed => none
    | .flag name value =>
      match table.lookup name, value, rest with
      | none, _, _ => none
      | some kind, some value, rest =>
        if kind.accepts value then parseFlags table rest ((name, value) :: flags) else none
      | some .switch, none, rest => parseFlags table rest ((name, "true") :: flags)
      | some _, none, [] => none
      | some kind, none, value :: rest =>
        if kind.accepts value then parseFlags table rest ((name, value) :: flags) else none

namespace Arguments

/-- The value of a flag; empty if it was not given. -/
def text (arguments : Arguments) (name : String) : String := (arguments.flags.lookup name).getD ""

def isSet (arguments : Arguments) (name : String) : Bool :=
  match arguments.flags.lookup name with
  | some value => (Text.readBool value).toOption.getD false
  | none => false

end Arguments

end FlowSpec.Command
