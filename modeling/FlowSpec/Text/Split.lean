/-!
Splitting text at a separator. A text with `n` separators has `n + 1` parts, and joining the parts
gives the text back. The functions on characters are the ones to reason about; those on strings wrap
them.
-/

set_option autoImplicit false

namespace FlowSpec.Text

/-- Drops `front` from the beginning of a list, if the list begins with it. -/
def dropFront? : List Char → List Char → Option (List Char)
  | [], cs => some cs
  | _, [] => none
  | p :: front, c :: cs => if p = c then dropFront? front cs else none

/-- The parts of `cs` between occurrences of a separator, searched from the left; `skip` characters
of a separator that was found are still to be passed, and `part` is the part being read, last
first. -/
def splitAux (sep : List Char) : List Char → Nat → List Char → List (List Char)
  | [], _, part => [part.reverse]
  | _ :: cs, skip + 1, part => splitAux sep cs skip part
  | c :: cs, 0, part =>
    match dropFront? sep (c :: cs) with
    | some _ => part.reverse :: splitAux sep cs (sep.length - 1) []
    | none => splitAux sep cs 0 (c :: part)

/-- The parts of a text between occurrences of a non-empty separator. -/
def split (sep text : String) : List String :=
  (splitAux sep.toList text.toList 0 []).map String.ofList

/-- Occurs in the text. -/
def contains (part : List Char) : List Char → Bool
  | [] => part.isEmpty
  | c :: cs => (dropFront? part (c :: cs)).isSome || contains part cs

/-- The text with every `c` replaced by `d`. -/
def replaceChar (c d : Char) (text : String) : String :=
  String.ofList (text.toList.map fun x => if x = c then d else x)

/-- Characters that count as white space between words. -/
def isSpace (c : Char) : Bool :=
  let n := c.toNat
  (9 ≤ n && n ≤ 13) || n = 0x20 || n = 0x85 || n = 0xa0 || n = 0x1680 || (0x2000 ≤ n && n ≤ 0x200a)
    || n = 0x2028 || n = 0x2029 || n = 0x202f || n = 0x205f || n = 0x3000

/-- The maximal runs of characters that do not satisfy `p`. -/
def runsAux (p : Char → Bool) : List Char → List Char → List (List Char)
  | [], run => if run.isEmpty then [] else [run.reverse]
  | c :: cs, run =>
    if p c then if run.isEmpty then runsAux p cs [] else run.reverse :: runsAux p cs []
    else runsAux p cs (c :: run)

/-- The words of a text. -/
def words (text : String) : List String := (runsAux isSpace text.toList []).map String.ofList

/-- The text without the white space around it. -/
def trim (text : String) : String :=
  String.ofList ((text.toList.dropWhile isSpace).reverse.dropWhile isSpace).reverse

/-- The text without line feeds at its end. -/
def trimLines (text : String) : String :=
  String.ofList (text.toList.reverse.dropWhile (· == '\n')).reverse

def join (sep : String) (parts : List String) : String := sep.intercalate parts

end FlowSpec.Text
