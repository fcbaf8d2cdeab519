import FlowSpec.Text.Order
import FlowSpec.Text.Quoted
import FlowSpec.Text.Split

/-! What can be wrong with an Avro schema. -/

set_option autoImplicit false

namespace FlowSpec.Avro

/-- Why a word cannot be a name. -/
inductive NameFault where
  | missing
  | malformed (name : String)
deriving Repr, DecidableEq, Inhabited

inductive SchemaError where
  | unknownType (shown : String)
  | decoding (what : String) (problems : List String)
  | nameRequired
  | emptyNamespace
  | namePart (full part : String) (fault : NameFault)
  | fieldName (fault : NameFault)
  | repeatedName (full : String)
  | fieldsRequired
  | fieldTypeRequired
  | fieldOrder (field order : String)
  | fieldDefault (field shown kind : String)
  | symbolsRequired
  | malformedSymbol (symbol : String)
  | defaultSymbol (symbol : String)
  | itemsRequired
  | valuesRequired
  | sizeRequired
  | nestedUnion
  | repeatedBranch
deriving Repr, DecidableEq, Inhabited

def NameFault.message : NameFault → String
  | missing => "name must be a non-empty"
  | malformed name => "invalid name " ++ name

/-- Problems of decoding, each on a line, in the order of their texts. -/
def decodingMessage (problems : List String) : String :=
  toString problems.length ++ " error(s) decoding:\n\n"
    ++ Text.join "\n" (Text.sortNames (problems.map ("* " ++ ·)))

def SchemaError.message : SchemaError → String
  | unknownType shown => "avro: unknown type: " ++ shown
  | decoding what problems => "avro: error decoding " ++ what ++ ": " ++ decodingMessage problems
  | nameRequired => "avro: non-empty name key required"
  | emptyNamespace => "avro: namespace key must be non-empty or omitted"
  | namePart full part fault =>
    "avro: invalid name part " ++ Text.quoted full ++ " in name " ++ Text.quoted part ++ ": "
      ++ fault.message
  | fieldName fault => fault.message
  | repeatedName full => "duplicate name " ++ Text.quoted full
  | fieldsRequired => "avro: record must have an array of fields"
  | fieldTypeRequired => "avro: field requires a type"
  | fieldOrder field order =>
    "avro: field " ++ Text.quoted field ++ " order " ++ Text.quoted order ++ " is invalid"
  | fieldDefault field shown kind =>
    "avro: invalid default for field " ++ field ++ ". " ++ shown ++ " not a " ++ kind
  | symbolsRequired => "avro: enum must have a non-empty array of symbols"
  | malformedSymbol symbol => "avro: invalid symbol " ++ Text.quoted symbol
  | defaultSymbol symbol => "avro: symbol default " ++ Text.quoted symbol ++ " must be a symbol"
  | itemsRequired => "avro: array must have an items key"
  | valuesRequired => "avro: map must have an values key"
  | sizeRequired => "avro: fixed must have a size"
  | nestedUnion => "avro: union type cannot be a union"
  | repeatedBranch => "avro: union type must be unique"

end FlowSpec.Avro
