/-!
YAML values as trees. Tags are short (`!!str`, `!!map`), lines are counted from one. An alias holds
the node it stands for; inside that very node it holds none.
-/

set_option autoImplicit false

namespace FlowSpec.Yaml

inductive Node where
  | scalar (tag : String) (line : Nat) (value : String)
  | sequence (tag : String) (line : Nat) (items : List Node)
  | mapping (tag : String) (line : Nat) (pairs : List (Node × Node))
  | reference (line : Nat) (name : String) (target : Option Node)
deriving Repr, Inhabited

namespace Node

def line : Node → Nat
  | scalar _ line _ => line
  | sequence _ line _ => line
  | mapping _ line _ => line
  | reference line _ _ => line

/-- The text of a scalar or the name of an alias. -/
def text : Node → String
  | scalar _ _ value => value
  | reference _ name _ => name
  | _ => ""

def tag : Node → String
  | scalar tag _ _ => tag
  | sequence tag _ _ => tag
  | mapping tag _ _ => tag
  | reference _ _ _ => ""

/-- The tag of the node itself or of the node an alias stands for. -/
def valueTag : Node → String
  | reference _ _ (some target) => valueTag target
  | node => node.tag

def isMapping : Node → Bool
  | mapping .. => true
  | _ => false

/-- The entries of a mapping; any other node has none. -/
def pairs : Node → List (Node × Node)
  | mapping _ _ pairs => pairs
  | _ => []

/-- The value of the first entry whose key has the given text. -/
def find? (node : Node) (key : String) : Option Node :=
  (node.pairs.find? fun pair => pair.1.text == key).map (·.2)

/-- The text of the scalar under a key; empty without one. -/
def scalarAt (node : Node) (key : String) : String :=
  match node.find? key with
  | some (.scalar _ _ value) => value
  | _ => ""

mutual

/-- Puts `target` into the aliases of a name that hold no node. -/
def tie (name : String) (target : Node) : Node → Node
  | reference line other none => reference line other (if other == name then some target else none)
  | sequence tag line items => sequence tag line (tieItems name target items)
  | mapping tag line pairs => mapping tag line (tiePairs name target pairs)
  | node => node

def tieItems (name : String) (target : Node) : List Node → List Node
  | [] => []
  | item :: rest => tie name target item :: tieItems name target rest

def tiePairs (name : String) (target : Node) : List (Node × Node) → List (Node × Node)
  | [] => []
  | (key, value) :: rest =>
    (tie name target key, tie name target value) :: tiePairs name target rest

end

mutual

/-- Whether two trees are the same. -/
def decEq : (first second : Node) → Decidable (first = second)
  | scalar tag line value, scalar tag' line' value' =>
    decidable_of_decidable_of_iff (p := tag = tag' ∧ line = line' ∧ value = value') (by simp)
  | sequence tag line items, sequence tag' line' items' =>
    have := decEqItems items items'
    decidable_of_decidable_of_iff (p := tag = tag' ∧ line = line' ∧ items = items') (by simp)
  | mapping tag line pairs, mapping tag' line' pairs' =>
    have := decEqPairs pairs pairs'
    decidable_of_decidable_of_iff (p := tag = tag' ∧ line = line' ∧ pairs = pairs') (by simp)
  | reference line name target, reference line' name' target' =>
    have := decEqTarget target target'
    decidable_of_decidable_of_iff (p := line = line' ∧ name = name' ∧ target = target') (by simp)
  | scalar .., sequence .. | scalar .., mapping .. | scalar .., reference .. => isFalse nofun
  | sequence .., scalar .. | sequence .., mapping .. | sequence .., reference .. => isFalse nofun
  | mapping .., scalar .. | mapping .., sequence .. | mapping .., reference .. => isFalse nofun
  | reference .., scalar .. | reference .., sequence .. | reference .., mapping .. => isFalse nofun

def decEqItems : (first second : List Node) → Decidable (first = second)
  | [], [] => isTrue rfl
  | [], _ :: _ | _ :: _, [] => isFalse nofun
  | item :: rest, item' :: rest' =>
    have := decEq item item'
    have := decEqItems rest rest'
    decidable_of_decidable_of_iff (p := item = item' ∧ rest = rest') (by simp)

def decEqPairs : (first second : List (Node × Node)) → Decidable (first = second)
  | [], [] => isTrue rfl
  | [], _ :: _ | _ :: _, [] => isFalse nofun
  | (key, value) :: rest, (key', value') :: rest' =>
    have := decEq key key'
    have := decEq value value'
    have := decEqPairs rest rest'
    decidable_of_decidable_of_iff (p := key = key' ∧ value = value' ∧
        rest = rest') (by simp [and_assoc])

def decEqTarget : (first second : Option Node) → Decidable (first = second)
  | none, none => isTrue rfl
  | none, some _ | some _, none => isFalse nofun
  | some target, some target' =>
    have := decEq target target'
    decidable_of_decidable_of_iff (p := target = target') (by simp)

end

instance : DecidableEq Node := decEq

end Node

end FlowSpec.Yaml
