/-!
Edit distance and suggestions for misspelt names. The distance counts insertions, deletions and
replacements of single characters.
-/

set_option autoImplicit false

namespace FlowSpec.Text

/-- The next row of the distance table: `row` holds the distances from the characters read so far to
each front of the other text, and `left` is the entry before the one computed. -/
def distanceRow (c : Char) : List Char → Nat → List Nat → List Nat
  | d :: ds, left, above :: next :: row =>
    let here := min (min (left + 1) (next + 1)) (above + if c = d then 0 else 1)
    here :: distanceRow c ds here (next :: row)
  | _, _, _ => []

def distanceAux (target : List Char) : List Char → List Nat → Nat
  | [], row => row.getLastD 0
  | c :: cs, row =>
    let first := row.headD 0 + 1
    distanceAux target cs (first :: distanceRow c target first row)

/-- The edit distance of two texts. -/
def distance (a b : String) : Nat :=
  distanceAux b.toList a.toList (List.range (b.length + 1))

/-- The first of the candidates that are nearest to `name`, with its distance; `name` itself is
none. -/
def nearest (name : String) : List String → Option (String × Nat)
  | [] => none
  | c :: rest =>
    let later := nearest name rest
    if c = name then later
    else
      let d := distance name c
      match later with
      | some (_, e) => if e < d then later else some (c, d)
      | none => some (c, d)

/-- The candidate that `name` was likely meant to be: near enough for a typing error. -/
def suggest (name : String) (candidates : List String) : Option String :=
  match nearest name candidates with
  | some (c, d) => if d ≤ max 2 (name.utf8ByteSize / 3) then some c else none
  | none => none

/-- The hint at the end of a message. -/
def didYouMean (name : String) (candidates : List String) : String :=
  match suggest name candidates with
  | some c => "; did you mean `" ++ c ++ "`?"
  | none => ""

end FlowSpec.Text
