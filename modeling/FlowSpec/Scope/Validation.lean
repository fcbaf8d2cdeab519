import FlowSpec.Report
import FlowSpec.Scope

/-! Validation of types: names are given and distinct, and every name that is mentioned is in
scope. -/

set_option autoImplicit false

namespace FlowSpec

/-- The line for a type name that is not in scope. -/
def unknownTypeLine (name : String) : String :=
  "Referenced type `" ++ name ++ "` not found in config or imported types"

/-- Lines for items with their names; `seen` holds the names of the items before. -/
def checkItems {α : Type} (name : α → String) (check : α → Bool → List Report) :
    List α → List String → List Report
  | [], _ => []
  | item :: rest, seen =>
    check item (seen.contains (name item)) ++ checkItems name check rest (name item :: seen)

def lineIf (condition : Bool) (text : String) : List Report :=
  if condition then [.line text] else []

namespace Scope

def unknownType (scope : Scope) (name : String) : List Report :=
  lineIf (!scope.contains name) (unknownTypeLine name)

def checkVariants (scope : Scope) (variants : List Variant) : List Report :=
  checkItems Variant.name (fun variant isRepeated =>
    lineIf variant.name.isEmpty "Enum variant name cannot be empty"
      ++ lineIf isRepeated ("Duplicate enum variant name `" ++ variant.name ++ "`")
      ++ match variant.payload with
        | none => []
        | some "" => [.line "Enum variant does not reference any type"]
        | some type => scope.unknownType type) variants []

def checkFields (scope : Scope) (fields : List Field) : List Report :=
  checkItems Field.name (fun field isRepeated =>
    lineIf field.name.isEmpty "Field name cannot be empty"
      ++ scope.unknownType field.type
      ++ lineIf isRepeated ("Duplicate field name `" ++ field.name ++ "`")) fields []

end Scope

def checkColumns (columns : List Column) : List Report :=
  checkItems Column.name (fun column isRepeated =>
    lineIf column.name.isEmpty "Column name cannot be empty"
      ++ lineIf isRepeated
        ("Column name `" ++ column.name ++ "` is duplicated. Column names must be unique"))
    columns []

/-- The report on the row that a state holds. -/
def checkStateRow (columns : List Column) : Option Report :=
  Report.groupUnlessEmpty "Arrow row value is invalid" (checkColumns columns)

namespace Scope

def checkKeyedState (scope : Scope) (state : KeyedState) : List Report :=
  lineIf (!scope.contains state.key)
      ("Referenced key type `" ++ state.key ++ "` not found in config or imported types")
    ++ match state.value with
      | .row columns => (checkStateRow columns).toList
      | .unresolved name => scope.unknownType name
      | .u32 => []

/-- The report on a shape; a valid one has none. -/
def checkShape (scope : Scope) : Shape → Option Report
  | .enumeration variants =>
    Report.groupUnlessEmpty "Enum type is invalid:" (scope.checkVariants variants.variants)
  | .keyedState state =>
    Report.groupUnlessEmpty "Keyed state type is invalid:" (scope.checkKeyedState state)
  | .object fields => Report.groupUnlessEmpty "Object type is invalid:" (scope.checkFields fields)
  | .row columns => Report.groupUnlessEmpty "Arrow row type is invalid:" (checkColumns columns)
  | .list item => (scope.unknownType item).head?
  | .option value => (scope.unknownType value).head?
  | .named target =>
    if Shape.compositeNames.contains target then
      some (.line ("Invalid syntax for " ++ target
        ++ ". Check that the internal attributes are properly defined"))
    else (scope.unknownType target).head?
  | .keyValue key value => (scope.unknownType key ++ scope.unknownType value).head?
  | .null | .primitive _ => none

/-- The report on a type, headed by its name. -/
def checkType (scope : Scope) (type : NamedType) : Option Report :=
  Report.groupUnlessEmpty ("Defined type `" ++ type.name ++ "` is invalid:")
    (lineIf type.name.isEmpty "Type name cannot be empty" ++ (scope.checkShape type.shape).toList)

/-- The reports on all types. -/
def problems (scope : Scope) : List Report := scope.types.filterMap scope.checkType

end Scope

end FlowSpec
