/-! Lists in the order of names, and lists without repeated neighbours. -/

set_option autoImplicit false

namespace FlowSpec.Text

/-- The elements in the order of their names; elements of one name keep their order. -/
def sortByName {α : Type} (name : α → String) (items : List α) : List α :=
  items.mergeSort fun a b => name a ≤ name b

def sortNames (names : List String) : List String := sortByName id names

/-- The list without elements equal to the one before them. -/
def dropRepeats {α : Type} [DecidableEq α] : List α → List α
  | [] => []
  | [a] => [a]
  | a :: b :: rest => if a = b then dropRepeats (b :: rest) else a :: dropRepeats (b :: rest)

end FlowSpec.Text
